import Stepwise.Assistant

/-!
Talking to the user. A request from the command line comes first; in an interactive session each
line is a request unless it is blank, asks to leave, or asks to forget the conversation. A request
that fails is reported, and the session goes on.
-/

namespace Stepwise

/-- What the user means by a line. -/
inductive Utterance
  | nothing
  | leave
  | forget
  | request (text : String)
  deriving DecidableEq, Repr

namespace Utterance

/-- The words that end a session. -/
def leaveWords : List String := ["exit", "quit"]

/-- The word that asks to forget the conversation. -/
def forgetWord : String := "clear"

/-- What a line means, blanks around it aside; the words are known in any case. -/
def ofLine (line : String) : Utterance :=
  let text := Text.trimmed line
  let word := Text.lowered text
  if text.isEmpty then nothing
  else if leaveWords.contains word then leave
  else if word = forgetWord then forget
  else request text

end Utterance

namespace Conversation

variable {σ : Type} (e : Engine σ)

/-- Answers a request and reports its failure; tells whether it went well. -/
def ask (request : String) : Act Event (Session σ) Bool := do
  match ← (Assistant.run e request).attempt with
  | .ok _ => pure true
  | .error f =>
    Act.say (.requestFailed f)
    pure false

/-- The line that opens an interactive session. -/
def greeting : String := "Interactive mode. Type 'exit' to quit, 'clear' to forget the conversation."

/-- What the user is asked for lines with. -/
def invitation : String := "> "

/-- Goes through the lines of the user until one asks to leave or there are no more. -/
def exchange : List String → Act Event (Session σ) Unit
  | [] => Act.say (.terminal (invitation ++ "\n"))
  | line :: rest => do
    Act.say (.terminal (invitation ++ line ++ "\n"))
    match Utterance.ofLine line with
    | .nothing => exchange rest
    | .leave => pure ()
    | .forget =>
      Assistant.forget
      Session.tell .info "Conversation cleared."
      exchange rest
    | .request text =>
      let _ ← ask e text
      exchange rest

/-- An interactive session. -/
def interact (lines : List String) : Act Event (Session σ) Unit := do
  Session.tell .info greeting
  exchange e lines

/-- Answers the request that was made at once, if any, and holds an interactive session if that is
wanted or nothing was asked. The result is the exit code. -/
def serve (request : Option String) (interactive : Bool) (lines : List String) :
    Act Event (Session σ) Nat := do
  Assistant.start e
  match request with
  | none =>
    interact e lines
    pure 0
  | some text =>
    let good ← ask e text
    if interactive then
      interact e lines
      pure 0
    else pure (if good then 0 else 1)

end Conversation

end Stepwise
