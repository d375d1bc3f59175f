import Stepwise.Chat.Message
import Stepwise.Event
import Stepwise.Outputs

/-!
What lasts from step to step and from run to run: the world outside, the outputs of the current run,
how far the current plan has come, the conversation so far, and how deeply runs are nested.
-/

namespace Stepwise

/-- How far a plan has come. -/
inductive Phase
  | idle
  | running
  | recursing
  | done
  deriving DecidableEq, Repr

/-- The word for a phase. -/
def Phase.name : Phase → String
  | idle => "idle"
  | running => "running"
  | recursing => "recursing"
  | done => "done"

/-- The state that runs work on; `depth` tells how many runs enclose the current one. -/
structure Session (σ : Type) where
  world : σ
  outputs : Outputs
  phase : Phase
  history : List Message
  started : Bool
  depth : Nat

namespace Session

variable {σ α : Type}

/-- A session in which nothing has happened. -/
def fresh (world : σ) : Session σ := ⟨world, .empty, .idle, [], false, 0⟩

/-- Work on the world outside. -/
def onWorld (m : Act Event σ α) : Act Event (Session σ) α :=
  Act.zoom (·.world) (fun w s => { s with world := w }) m

/-- What capabilities and plugins do to the world outside. -/
def doing (m : Act Deed σ α) : Act Event (Session σ) α := onWorld (m.relabel Event.deed)

/-- Shows a line on the console. -/
def tell (tone : Tone) (text : String) : Act Event (Session σ) Unit :=
  Act.say (.deed (.show tone text))

/-- Leaves a note in the journal. -/
def note (source : Source) (text : String) : Act Event (Session σ) Unit :=
  Act.say (.deed (.diagnostic .debug source text))

/-- The outputs so far. -/
def outputsSoFar : Act Event (Session σ) Outputs := do return (← Act.world).outputs

/-- Adds an output. -/
def record (v : Value) : Act Event (Session σ) Unit :=
  Act.change fun s => { s with outputs := s.outputs.append v }

/-- Sets how far the plan has come. -/
def enter (p : Phase) : Act Event (Session σ) Unit := Act.change fun s => { s with phase := p }

end Session

end Stepwise
