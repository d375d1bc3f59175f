import Stepwise.Call.Parser
import Stepwise.Capability.Invocation
import Stepwise.Plugin.Hooks
import Stepwise.Session

/-!
Executing a plan step by step. A step that completes adds one output; a step that fails is reported
and passed over; a step that hands over to another request ends the plan. The plugins see each step
before it is executed, each that completed, and the end of the plan. A plan is carried out by a machine
with four stations, which may not visit more of them than its limit allows.
-/

namespace Stepwise

/-- How a plan ended: in which phase, after how many steps were begun, with which outputs. -/
structure Ending where
  phase : Phase
  executed : Nat
  outputs : List Value
  deriving DecidableEq, Repr

namespace Dispatch

/-- What a request that a plan hands over to does with the session. -/
abbrev Callback (σ : Type) := String → Act Event (Session σ) Unit

/-- Where the machine stands. -/
inductive Station
  | start
  | execute
  | finish
  | recurse
  deriving DecidableEq, Repr

/-- What the machine keeps: the plan, the index of the next step, how many steps were begun, whether
the plan is used up, what was handed over to another request, the outputs put aside for the end, and
the session. -/
structure Course (σ : Type) where
  plan : List Step
  index : Nat
  executed : Nat
  finished : Bool
  handedOver : Option String
  outputs : Option (List Value)
  session : Session σ

namespace Course

variable {σ α : Type}

/-- The course of a plan that is about to be carried out. -/
def ofPlan (plan : List Step) (session : Session σ) : Course σ :=
  ⟨plan, 0, 0, false, none, none, session⟩

/-- How the plan ended, once the machine has come to rest. -/
def ending (c : Course σ) : Ending :=
  ⟨c.session.phase, c.executed, c.outputs.getD c.session.outputs.items⟩

/-- Work on the session. -/
def onSession (m : Act Event (Session σ) α) : Act Event (Course σ) α :=
  Act.zoom (·.session) (fun s c => { c with session := s }) m

/-- Goes on to the next step. -/
def advance : Act Event (Course σ) Unit := Act.change fun c => { c with index := c.index + 1 }

end Course

variable {σ : Type} (e : Engine σ)

/-- The call that a step of another kind consists of, if it is a single line that begins like one. -/
def directCall? (content : String) : Option (Except Fault Call) :=
  let text := Text.trim content.toList
  if e.catalogue.opening.toList.isPrefixOf text && !text.contains '\n' then
    match Call.read e.catalogue.root text with
    | .ok c => some (.ok c)
    | .error (.overlong o) => some (.error (.overlong o))
    | .error _ => none
  else none

/-- Shows a text as the answer. -/
def answer (content : String) : Act Deed σ Value := do
  e.answer content
  pure (.text content)

/-- Runs a command and shows what it wrote. -/
def command (text : String) : Act Deed σ Value := do
  let r ← e.command text
  if r.success then
    if !r.stdout.isEmpty then Act.say (.show .plain r.shown)
    pure (.text r.stdout)
  else Act.fail (r.fault text)

/-- Carries out a call, unless its text could not be read. -/
def carryOut (outputs : Outputs) : Except Fault Call → Act Deed σ Value
  | .ok c => e.perform outputs c
  | .error f => Act.fail f

/-- What a step of a kind does with its content. -/
def execute (outputs : Outputs) (kind : StepKind) (content : String) : Act Deed σ Value :=
  match kind with
  | .call =>
    match Call.parse e.catalogue.root content with
    | .ok c => e.perform outputs c
    | .error (.overlong o) => Act.fail (.overlong o)
    | .error r => do
      Act.say (.diagnostic .debug .dispatcher
        ("Capability call did not parse (" ++ r.message ++ "); answering as text"))
      answer e content
  | .command =>
    match directCall? e content with
    | some c => carryOut e outputs c
    | none => command e content
  | .code =>
    match directCall? e content with
    | some c => carryOut e outputs c
    | none => e.host.execute outputs content
  | .answer => answer e content
  | .recurse => answer e content

/-- Hands over to another request, if there is a way to. The outputs are put aside before, since the
other request begins with none. -/
def handOver (callback : Option (Callback σ)) (content : String) : Act Event (Course σ) Unit :=
  match callback with
  | none => Act.fail (.general .handler "recurse step has no handler in this context")
  | some f => do
    Act.change fun c => { c with outputs := some c.session.outputs.items }
    Act.say (.handoff content)
    Course.onSession (f content)
    Act.change fun c => { c with handedOver := some content }

/-- Shows the description of a step, if it has one. -/
def announce (step : Step) : Act Event (Session σ) Unit :=
  if step.description.isEmpty then pure () else Session.tell .info step.description

/-- Carries out one step, as the plugins leave it. The result is that step with its output, or nothing
for a step that handed over. -/
def perform (callback : Option (Callback σ)) (step : Step) :
    Act Event (Course σ) (Option (Step × Value)) := do
  let c ← Act.world
  let step ← Course.onSession (Session.onWorld (Hooks.beforeStep e.participants c.plan c.index step))
  Course.onSession (announce step)
  if step.kind = .recurse then
    handOver callback step.content
    pure none
  else
    let outputs ← Course.onSession Session.outputsSoFar
    let v ← Course.onSession (Session.doing (execute e outputs step.kind step.content))
    pure (some (step, v))

/-- Adds the output of a step, and shows the plugins what was done. -/
def settle (step : Step) (v : Value) : Act Event (Course σ) Unit := do
  let c ← Act.world
  Course.onSession (Session.record v)
  let outputs ← Course.onSession Session.outputsSoFar
  Course.onSession (Session.onWorld (Hooks.afterStep e.participants c.plan c.index step outputs.items))

/-- Begins with no outputs. -/
def start : Act Event (Course σ) Unit := do
  Course.onSession (Act.change fun s => { s with outputs := .empty, phase := .running })
  let c ← Act.world
  Course.onSession (Session.note .dispatcher ("Dispatching " ++ toString c.plan.length ++ " steps"))

/-- Carries out the next step, or finds that there is none. -/
def executeNext (callback : Option (Callback σ)) : Act Event (Course σ) Unit := do
  let c ← Act.world
  match c.plan[c.index]? with
  | none => Act.change fun c => { c with finished := true }
  | some step =>
    Course.onSession (Session.enter .running)
    Act.change fun c => { c with executed := c.executed + 1 }
    match ← (perform e callback step).attempt with
    | .ok none => pure ()
    | .ok (some (step, v)) =>
      settle e step v
      Course.advance
    | .error f =>
      Act.say (.stepFailed c.index f)
      Course.advance

/-- Tells the plugins that the plan was carried out to its end. -/
def finish : Act Event (Course σ) Unit := do
  let c ← Act.world
  let outputs ← Course.onSession Session.outputsSoFar
  Course.onSession (Session.onWorld (Hooks.afterRun e.participants c.plan outputs.items))
  Act.change fun c => { c with outputs := some outputs.items }
  Course.onSession (Session.enter .done)

/-- What the machine does at a station. -/
def visit (callback : Option (Callback σ)) : Station → Act Event (Course σ) Unit
  | .start => start
  | .execute => executeNext e callback
  | .finish => finish e
  | .recurse => Course.onSession (Session.enter .recursing)

/-- Where the machine goes from a station, if it does not come to rest. -/
def next : Station → Course σ → Option Station
  | .start, _ => some .execute
  | .execute, c =>
    if c.handedOver.isSome then some .recurse else if c.finished then some .finish else some .execute
  | .finish, _ => none
  | .recurse, _ => none

/-- The fault of a machine that visits more stations than it may. -/
def overrun (limit : Nat) : Fault :=
  .general .recursion
    ("Recursion limit of " ++ toString limit ++ " reached without hitting a stop condition.")

/-- Lets the machine work from a station on, with so many visits left of those that it may make. -/
def drive (callback : Option (Callback σ)) (limit : Nat) : Nat → Station → Act Event (Course σ) Unit
  | 0, _ => Act.fail (overrun limit)
  | left + 1, station => do
    visit e callback station
    match next station (← Act.world) with
    | none => pure ()
    | some station => drive callback limit left station

/-- How many visits a plan may take beyond one for each step. -/
def overhead : Nat := 10

/-- Carries out a plan, beginning with no outputs. -/
def run (callback : Option (Callback σ)) (plan : List Step) : Act Event (Session σ) Ending :=
  Act.zoom (Course.ofPlan plan) (fun c _ => c.session) do
    let limit := plan.length + overhead
    drive e callback limit limit .start
    return (← Act.world).ending

/-- Carries out the plan that a value describes. -/
def runValue (callback : Option (Callback σ)) (v : Value) : Act Event (Session σ) Ending := do
  let plan ← Act.ofExcept (Plan.ofValue v)
  run e callback plan

end Dispatch

end Stepwise
