import Stepwise.Chat.Message
import Stepwise.Fault
import Stepwise.Settings.Provider

/-!
A conversation as the completion provider takes it: turns of requests and responses, and the prompt
that is to be answered. Messages before a response are gathered in one request; nothing is lost.
-/

namespace Stepwise

/-- A part of a request. -/
inductive Part
  | system (text : String)
  | user (text : String)
  deriving DecidableEq, Repr

/-- What one side said at a time. -/
inductive Turn
  | request (parts : List Part)
  | response (text : String)
  deriving DecidableEq, Repr

namespace Transcript

/-- The parts that wait for a response, as a turn if there are any. -/
def flush : List Part → List Turn
  | [] => []
  | p :: ps => [.request (p :: ps)]

/-- The turns of messages, after parts that already wait. -/
def turns : List Part → List Message → List Turn
  | waiting, [] => flush waiting
  | waiting, m :: ms =>
    match m.role with
    | .assistant => flush waiting ++ .response m.content :: turns [] ms
    | .system => turns (waiting ++ [.system m.content]) ms
    | .user => turns (waiting ++ [.user m.content]) ms

/-- The turns before the prompt, and the prompt, which must be the user's. -/
def split (messages : List Message) : Except Fault (List Turn × String) :=
  match messages.getLast? with
  | some m =>
    if m.role = .user then .ok (turns [] messages.dropLast, m.content)
    else .error (.general .value "the last message must be the user prompt")
  | none => .error (.general .value "the last message must be the user prompt")

/-- The messages that a part or a turn stands for. -/
def partMessage : Part → Message
  | .system s => ⟨.system, s⟩
  | .user s => ⟨.user, s⟩

def turnMessages : Turn → List Message
  | .request parts => parts.map partMessage
  | .response s => [⟨.assistant, s⟩]

end Transcript

/-- What is sent for one completion. -/
structure Completion where
  turns : List Turn
  prompt : String
  temperature : Double
  maxTokens : Int

/-- The request for a completion; the provider must have a model unless one is at hand. -/
def Completion.prepare (p : Provider) (modelAtHand : Bool) (messages : List Message) :
    Except Fault Completion :=
  match Transcript.split messages with
  | .error f => .error f
  | .ok (turns, prompt) =>
    if modelAtHand then .ok ⟨turns, prompt, p.temperature, p.maxTokens⟩
    else p.resolvedModel.map fun _ => ⟨turns, prompt, p.temperature, p.maxTokens⟩

/-- What a reply of the model comes to. An empty one is no answer; the request is repeated once, and
then given up. -/
def Completion.answer (reply : String) : Except Fault String :=
  if reply.isEmpty then .error (.general .reply "Exceeded maximum output retries (1)") else .ok reply

end Stepwise
