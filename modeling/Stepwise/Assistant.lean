import Stepwise.Chat.Prompt
import Stepwise.Dispatch

/-!
Answering a request: the completion provider is asked for a plan, the plan is carried out, and the
exchange becomes part of the conversation. A plan may hand over to a further request, down to a
fixed depth; what fails there is reported and ends only the further request.
-/

namespace Stepwise.Assistant

variable {σ : Type} (e : Engine σ)

/-- The prompt for a request. -/
def promptFor (request : String) : String :=
  Prompt.user ⟨request, e.catalogue.text, e.site.directory.text, e.site.system, e.catalogue.root⟩

/-- The request that a prompt was made for. -/
def requestOf? (prompt : String) : Option String :=
  let start := "User request: \"".toList
  let rest := (promptFor e "").toList.drop start.length
  let cs := prompt.toList
  let request := String.ofList ((cs.drop start.length).take (cs.length - start.length - rest.length))
  if promptFor e request == prompt then some request else none

/-- The messages that ask for a plan. -/
def messagesFor (history : List Message) (request : String) : List Message :=
  ⟨.system, Prompt.system⟩ :: history ++ [⟨.user, promptFor e request⟩]

/-- Asks for a plan. The result is the reply as the plugins leave it, and the plan in it. -/
def plan (request : String) : Act Event (Session σ) (String × List Step) := do
  let s ← Act.world
  let messages ← Session.onWorld (Hooks.beforeRequest e.participants (messagesFor e s.history request))
  Act.say (.planning messages)
  let raw ← Session.doing (e.complete .plan messages)
  let reply ← Session.onWorld (Hooks.afterReply e.participants raw)
  (Plan.replyNotes reply).forM (Session.note .planning)
  let steps ← Act.ofExcept (Plan.ofReply reply)
  let steps ← Session.onWorld (Hooks.afterParse e.participants steps)
  pure (reply, steps)

/-- Adds an exchange to the conversation. -/
def remember (request reply : String) : Act Event (Session σ) Unit :=
  Act.change fun s => { s with history := s.history ++ [⟨.user, request⟩, ⟨.assistant, reply⟩] }

/-- Whether a plan is nothing but one text answer. -/
def isSingleAnswer : List Step → Bool
  | [s] => s.kind == .answer
  | _ => false

/-- What the journal is told of a request that was answered at some depth. -/
def endingNote (depth : Nat) (r : Ending) : String :=
  "Run ended in " ++ r.phase.name ++ " after " ++ toString r.executed ++ " steps (" ++
    toString r.outputs.length ++ " outputs, depth " ++ toString depth ++ ")"

/-- Tells that a plan of several steps is about to be carried out. -/
def announce (steps : List Step) : Act Event (Session σ) Unit :=
  if 1 < steps.length then Session.tell .info "Executing steps..." else pure ()

/-- Tells that a plan was carried out, unless it only gave an answer. -/
def conclude (steps : List Step) : Act Event (Session σ) Unit :=
  if isSingleAnswer steps then pure () else Session.tell .success "Execution completed."

/-- Answers a request, its plan handing over to `callback`. -/
def answerWith (callback : Dispatch.Callback σ) (request : String) : Act Event (Session σ) Ending := do
  let (reply, steps) ← plan e request
  announce steps
  let ending ← Dispatch.run e (some callback) steps
  conclude steps
  remember request reply
  Session.note .service (endingNote (← Act.world).depth ending)
  pure ending

/-- Lets a further request run one level deeper, and reports its failure. -/
def nested (m : Act Event (Session σ) Ending) : Act Event (Session σ) Unit := do
  Act.change fun s => { s with depth := s.depth + 1 }
  match ← m.attempt with
  | .ok _ => pure ()
  | .error f => Act.say (.nestedFailed f)
  Act.change fun s => { s with depth := s.depth - 1 }

/-- Hands over to a further request, unless runs are nested as deeply as they may be. -/
def recurse (answer : String → Act Event (Session σ) Ending) : Dispatch.Callback σ := fun content => do
  let s ← Act.world
  if e.settings.levels ≤ s.depth then Act.fail e.settings.refusal
  else nested (answer content)

/-- Answers a request, with as many levels of further requests below it. The levels only bound the
recursion: there are always more of them than requests that are not refused. -/
def answer : Nat → String → Act Event (Session σ) Ending
  | 0 => answerWith e (recurse e fun _ => Act.fail .tooDeep)
  | levels + 1 => answerWith e (recurse e (answer levels))

/-- Answers a request of the user. -/
def run (request : String) : Act Event (Session σ) Ending := answer e e.settings.levels request

/-- Tells the plugins once that all is ready. -/
def start : Act Event (Session σ) Unit := do
  let s ← Act.world
  if s.started then pure ()
  else
    Act.change fun s => { s with started := true }
    Session.onWorld (Hooks.start e.participants)

/-- Forgets the conversation. -/
def forget : Act Event (Session σ) Unit := Act.change fun s => { s with history := [] }

end Stepwise.Assistant
