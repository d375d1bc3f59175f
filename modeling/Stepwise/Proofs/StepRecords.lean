import Mathlib.Data.List.Basic
import Stepwise.Dispatch
import Stepwise.Proofs.HookCalls

/-!
The record of a step that was begun. `Begun` says everything that beginning a step can come to: it
completes, it fails in one of three ways, or another request takes over. Every step that is begun has
such a record, and the machine does what the record says.
-/

namespace Stepwise.Dispatch

variable {σ : Type}

/-- What became of a step that was begun. -/
inductive Fate
  | completed (output : Value)
  | failed (cause : Fault)
  | handedOver
  deriving DecidableEq

/-- A step that was begun: its place in the plan, how the plan has it and how the plugins left it, the
session in which it was carried out, what became of it, and the log. What a further request logged
stands apart from what the run logged before and after it. -/
structure Record (σ : Type) where
  index : Nat
  planned : Step
  step : Step
  ready : Session σ
  fate : Fate
  before : List Event
  nested : List Event
  after : List Event

namespace Record

/-- The output of a step that completed. -/
def output? (r : Record σ) : Option Value :=
  match r.fate with
  | .completed v => some v
  | _ => none

/-- All that was logged. -/
def log (r : Record σ) : List Event := r.before ++ r.nested ++ r.after

/-- What the run itself logged. -/
def own (r : Record σ) : List Event := r.before ++ r.after

/-- What plugins are told of a step that completed. -/
def notice? (plan : List Step) (r : Record σ) : Option HookCall :=
  r.output?.map fun v => .afterStep plan r.index r.step (r.ready.outputs.items ++ [v])

end Record

/-- The line that describes a step, if it has a description. -/
def description (step : Step) : List Event :=
  if step.description.isEmpty then [] else [.deed (.show .info step.description)]

/-- The fault of handing over where no further request can be made. -/
def noHandler : Fault := .general .handler "recurse step has no handler in this context"

/-- The session in which a step is carried out, once the plugins have seen it. -/
def readied (s : Session σ) (w : σ) : Session σ := { s with world := w, phase := .running }

section

variable (e : Engine σ) (callback : Option (Callback σ)) (plan : List Step)

/-- What beginning a step in a session comes to: its record, and the session that it leaves. -/
inductive Begun (index : Nat) (planned : Step) (s : Session σ) : Record σ → Session σ → Prop
  | completed {step : Step} {w w' w'' : σ} {v : Value} {hooks after : List Event} {deeds : List Deed}
      (prepared : Hooks.beforeStep e.participants plan index planned s.world = ⟨.ok step, w, hooks⟩)
      (kind : step.kind ≠ .recurse)
      (executed : execute e s.outputs step.kind step.content w = ⟨.ok v, w', deeds⟩)
      (observed : Hooks.afterStep e.participants plan index step (s.outputs.append v).items w' =
        ⟨.ok (), w'', after⟩) :
      Begun index planned s
        ⟨index, planned, step, readied s w, .completed v,
          hooks ++ description step ++ deeds.map .deed, [], after⟩
        { readied s w'' with outputs := s.outputs.append v }
  | failed {step : Step} {w w' : σ} {f : Fault} {hooks : List Event} {deeds : List Deed}
      (prepared : Hooks.beforeStep e.participants plan index planned s.world = ⟨.ok step, w, hooks⟩)
      (kind : step.kind ≠ .recurse)
      (executed : execute e s.outputs step.kind step.content w = ⟨.error f, w', deeds⟩) :
      Begun index planned s
        ⟨index, planned, step, readied s w, .failed f,
          hooks ++ description step ++ deeds.map .deed, [], [.stepFailed index f]⟩
        (readied s w')
  | unhandled {step : Step} {w : σ} {hooks : List Event}
      (prepared : Hooks.beforeStep e.participants plan index planned s.world = ⟨.ok step, w, hooks⟩)
      (kind : step.kind = .recurse)
      (absent : callback = none) :
      Begun index planned s
        ⟨index, planned, step, readied s w, .failed noHandler,
          hooks ++ description step, [], [.stepFailed index noHandler]⟩
        (readied s w)
  | refused {step : Step} {w : σ} {f : Fault} {s' : Session σ} {hooks nested : List Event}
      {further : Callback σ}
      (prepared : Hooks.beforeStep e.participants plan index planned s.world = ⟨.ok step, w, hooks⟩)
      (kind : step.kind = .recurse)
      (present : callback = some further)
      (called : further step.content (readied s w) = ⟨.error f, s', nested⟩) :
      Begun index planned s
        ⟨index, planned, step, readied s w, .failed f,
          hooks ++ description step ++ [.handoff step.content], nested, [.stepFailed index f]⟩
        s'
  | handedOver {step : Step} {w : σ} {s' : Session σ} {hooks nested : List Event}
      {further : Callback σ}
      (prepared : Hooks.beforeStep e.participants plan index planned s.world = ⟨.ok step, w, hooks⟩)
      (kind : step.kind = .recurse)
      (present : callback = some further)
      (called : further step.content (readied s w) = ⟨.ok (), s', nested⟩) :
      Begun index planned s
        ⟨index, planned, step, readied s w, .handedOver,
          hooks ++ description step ++ [.handoff step.content], nested, []⟩
        s'

/-- Every step that is begun has a record. -/
theorem begun_total (index : Nat) (planned : Step) (s : Session σ) :
    ∃ r s', Begun e callback plan index planned s r s' := by
  obtain ⟨step, w, hooks, prepared, -⟩ :=
    Hooks.beforeStep_spec e.participants plan index planned s.world
  by_cases kind : step.kind = .recurse
  · cases callback with
    | none => exact ⟨_, _, .unhandled prepared kind rfl⟩
    | some further =>
      rcases called : further step.content (readied s w) with ⟨⟨f⟩ | ⟨⟨⟩⟩, s', nested⟩
      · exact ⟨_, _, .refused prepared kind rfl called⟩
      · exact ⟨_, _, .handedOver prepared kind rfl called⟩
  · rcases executed : execute e s.outputs step.kind step.content w with ⟨f | v, w', deeds⟩
    · exact ⟨_, _, .failed prepared kind executed⟩
    · obtain ⟨w'', after, observed, -⟩ := Hooks.observe_spec
        (.afterStep plan index step (s.outputs.append v).items) e.participants w'
      exact ⟨_, _, .completed prepared kind executed observed⟩

end

variable {e : Engine σ} {callback : Option (Callback σ)}

@[simp] theorem onSession_apply {α : Type} (m : Act Event (Session σ) α) (c : Course σ) :
    Course.onSession m c =
      ⟨(m c.session).result, { c with session := (m c.session).world }, (m c.session).log⟩ := rfl

@[simp] theorem announce_apply (step : Step) (s : Session σ) :
    announce step s = ⟨.ok (), s, description step⟩ := by
  unfold announce description
  split <;> rfl

namespace Course

/-- The course after a step that another request took over. -/
def yielded (c : Course σ) (r : Record σ) (s : Session σ) : Course σ :=
  { c with
    executed := c.executed + 1
    handedOver := some r.step.content
    outputs := some r.ready.outputs.items
    session := s }

/-- The course after a step that did not end the plan. Outputs that were put aside for a request that
was refused stay there. -/
def passed (c : Course σ) (stale : Option (List Value)) (s : Session σ) : Course σ :=
  { c with
    index := c.index + 1
    executed := c.executed + 1
    outputs := stale
    session := s }

end Course

/-- The machine does what the record of the next step says. -/
theorem executeNext_of_begun {c : Course σ} {planned : Step} {r : Record σ} {s' : Session σ}
    (here : c.plan[c.index]? = some planned)
    (begun : Begun e callback c.plan c.index planned c.session r s') :
    (r.fate = .handedOver ∧ executeNext e callback c = ⟨.ok (), c.yielded r s', r.log⟩) ∨
    (r.fate ≠ .handedOver ∧
      ∃ stale, executeNext e callback c = ⟨.ok (), c.passed stale s', r.log⟩) := by
  cases begun with
  | completed prepared kind executed observed =>
    refine .inr ⟨Fate.noConfusion, c.outputs, ?_⟩
    simp [executeNext, here, perform, prepared, kind, executed, settle, Course.advance, observed, readied,
      Course.passed, Record.log]
  | failed prepared kind executed =>
    refine .inr ⟨Fate.noConfusion, c.outputs, ?_⟩
    simp [executeNext, here, perform, prepared, kind, executed, Course.advance, readied, Course.passed,
      Record.log]
  | unhandled prepared kind absent =>
    refine .inr ⟨Fate.noConfusion, c.outputs, ?_⟩
    simp [executeNext, here, perform, prepared, kind, handOver, absent, Course.advance, readied,
      Course.passed, Record.log, noHandler]
  | refused prepared kind present called =>
    refine .inr ⟨Fate.noConfusion, some c.session.outputs.items, ?_⟩
    rw [readied] at called
    simp [executeNext, here, perform, prepared, kind, handOver, present, called, Course.advance,
      Course.passed, Record.log]
  | handedOver prepared kind present called =>
    refine .inl ⟨rfl, ?_⟩
    rw [readied] at called
    simp [executeNext, here, perform, prepared, kind, handOver, present, called, Course.yielded,
      Record.log, readied]

end Stepwise.Dispatch
