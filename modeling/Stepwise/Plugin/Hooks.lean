import Stepwise.Event

/-!
Calling the plugins one after the other. A plugin that fails, or that answers with something the
point cannot use, is reported and passed over; the value it was given goes on to the next one.
-/

namespace Stepwise.Hooks

variable {σ : Type}

/-- What a plugin answered, read by `accept`; nothing stands for no change. -/
def answerOf {α : Type} (accept : Value → Except Fault α) : Except Fault Value → Except Fault (Option α)
  | .error f => .error f
  | .ok .null => .ok none
  | .ok v => (accept v).map some

/-- Asks one plugin for a replacement. -/
def ask {α : Type} (accept : Value → Except Fault α) (position : Nat) (p : Plugin σ)
    (call : HookCall) (a : α) : Act Event σ α := do
  Act.say (.hook position p.name call)
  let r ← ((p.answer call).relabel Event.deed).attempt
  match answerOf accept r with
  | .ok (some b) => pure b
  | .ok none => pure a
  | .error f =>
    Act.say (.hookFailed position p.name call.name f)
    pure a

/-- Passes a value through plugins, from a position on. -/
def transform {α : Type} (accept : Value → Except Fault α) (call : α → HookCall) :
    Nat → List (Plugin σ) → α → Act Event σ α
  | _, [], a => pure a
  | n, p :: ps, a => do
    let b ← ask accept n p (call a) a
    transform accept call (n + 1) ps b

/-- Lets plugins see a point, from a position on. -/
def observe (call : HookCall) (n : Nat) (ps : List (Plugin σ)) : Act Event σ Unit :=
  transform (fun _ => .ok ()) (fun _ => call) n ps ()

/-- The messages that a replacement describes. -/
def acceptMessages (v : Value) : Except Fault (List Message) :=
  match Fault.elements v with
  | .error f => .error f
  | .ok items => items.mapM fun m => (Message.validate m).mapError .invalid

/-- The text of a replacement. -/
def acceptReply (v : Value) : Except Fault String := .ok v.display

/-- The plan that a replacement describes. -/
def acceptPlan : Value → Except Fault (List Step)
  | .list items => .ok (Plan.ofItems items)
  | v => .error (.general .type ("after_parse must return a list of steps, got " ++ v.kindName))

/-- The step that a replacement describes. -/
def acceptStep : Value → Except Fault Step
  | .object members => .ok (Step.ofItem (.object members))
  | v => .error (.general .type ("before_step must return a Step or dict, got " ++ v.kindName))

variable (plugins : List (Plugin σ))

def start : Act Event σ Unit := observe .start 0 plugins

def beforeRequest (messages : List Message) : Act Event σ (List Message) :=
  transform acceptMessages .beforeRequest 0 plugins messages

def afterReply (reply : String) : Act Event σ String :=
  transform acceptReply .afterReply 0 plugins reply

def afterParse (plan : List Step) : Act Event σ (List Step) :=
  transform acceptPlan .afterParse 0 plugins plan

def beforeStep (plan : List Step) (index : Nat) (step : Step) : Act Event σ Step :=
  transform acceptStep (.beforeStep plan index) 0 plugins step

def afterStep (plan : List Step) (index : Nat) (step : Step) (outputs : List Value) :
    Act Event σ Unit :=
  observe (.afterStep plan index step outputs) 0 plugins

def afterRun (plan : List Step) (outputs : List Value) : Act Event σ Unit :=
  observe (.afterRun plan outputs) 0 plugins

end Stepwise.Hooks
