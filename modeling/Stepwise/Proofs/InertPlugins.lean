import Mathlib.Data.List.Basic
import Stepwise.Proofs.BoundedNesting
import Stepwise.Proofs.Erasure

/-!
Plugins that are good for nothing change nothing. A run with such a plugin, at whatever position among the
others, erases to the run without it: the machine that carries out a plan does the same at each of its
stations, and so do the runs that are nested in it. What the plugin adds is a report of each of its answers
that failed or was turned down.
-/

namespace Stepwise

variable {σ τ α : Type}

namespace Session

/-- The session without what lies beside the world. -/
def outer (s : Session (σ × τ)) : Session σ :=
  ⟨s.world.1, s.outputs, s.phase, s.history, s.started, s.depth⟩

/-- The session with a memory beside the world. -/
def beside (s : Session σ) (t : τ) : Session (σ × τ) :=
  ⟨(s.world, t), s.outputs, s.phase, s.history, s.started, s.depth⟩

/-- The session, which the memory lies beside. -/
def view (σ τ : Type) : View (Session (σ × τ)) (Session σ) τ := ⟨outer, fun s => s.world.2⟩

end Session

namespace Dispatch.Course

/-- The course of a plan without what lies beside the world. -/
def outer (c : Course (σ × τ)) : Course σ :=
  ⟨c.plan, c.index, c.executed, c.finished, c.handedOver, c.outputs, c.session.outer⟩

/-- The course of a plan, which the memory lies beside. -/
def view (σ τ : Type) : View (Course (σ × τ)) (Course σ) τ := ⟨outer, fun c => c.session.world.2⟩

end Dispatch.Course

section

variable {position : ℕ} {p : Plugin (σ × τ)}

theorem Erases.onWorld {m : Act Event (σ × τ) α} {m' : Act Event σ α} {s : Session (σ × τ)}
    (h : Erases (outerView σ τ) position p s.world m m') :
    Erases (Session.view σ τ) position p s (Session.onWorld m) (Session.onWorld m') := by
  obtain ⟨outcome, visits⟩ := h
  refine ⟨?_, visits⟩
  have outer : m' s.world.1 = _ := outcome
  simp [Session.view, Session.outer, outer, outerView]

theorem Erases.doing (m : Act Deed σ α) (s : Session (σ × τ)) :
    Erases (Session.view σ τ) position p s (Session.doing m.beside) (Session.doing m) :=
  .onWorld (.beside m s.world)

theorem Erases.onSession {m : Act Event (Session (σ × τ)) α} {m' : Act Event (Session σ) α}
    {c : Dispatch.Course (σ × τ)} (h : Erases (Session.view σ τ) position p c.session m m') :
    Erases (Dispatch.Course.view σ τ) position p c (Dispatch.Course.onSession m)
      (Dispatch.Course.onSession m') := by
  obtain ⟨outcome, visits⟩ := h
  refine ⟨?_, visits⟩
  have outer : m' c.session.outer = _ := outcome
  simp [Dispatch.Course.view, Dispatch.Course.outer, outer, Session.view]

end

section

variable {e : Engine σ} {position : ℕ} {p : Settings → Plugin (σ × τ)}

/-- A value passes through the plugins of an engine as it does without the one that is good for nothing. -/
theorem Engine.erases_participants (installed : position ≤ e.participants.length)
    (faulty : (p e.settings).Faulty) {accept : Value → Except Fault α} {call : α → HookCall}
    (fits : Hooks.Fits accept call) (a : α) (s : σ × τ) :
    Erases (outerView σ τ) position (p e.settings) s
      (Hooks.transform accept call 0 (e.install position p).participants a)
      (Hooks.transform accept call 0 e.participants a) := by
  have passed := Hooks.erases_transform_faulty fits faulty (e.participants.take position)
    (e.participants.drop position) a s
  rw [List.length_take_of_le installed, List.take_append_drop, ← participants_install] at passed
  exact passed

namespace Dispatch

variable (installed : position ≤ e.participants.length) (faulty : (p e.settings).Faulty)

/-- With the plugin and without, further requests do the same. -/
def SameCallback (position : ℕ) (q : Plugin (σ × τ)) (callback : Callback (σ × τ))
    (callback' : Callback σ) : Prop :=
  ∀ content s, Erases (Session.view σ τ) position q s (callback content) (callback' content)

variable {callback : Callback (σ × τ)} {callback' : Callback σ}

theorem erases_announce (step : Step) (s : Session (σ × τ)) :
    Erases (Session.view σ τ) position (p e.settings) s (announce step) (announce step) := by
  unfold announce
  split
  · exact .pure ()
  · exact .say rfl rfl

include installed faulty in
theorem erases_perform (same : SameCallback position (p e.settings) callback callback') (step : Step)
    (c : Course (σ × τ)) :
    Erases (Course.view σ τ) position (p e.settings) c
      (perform (e.install position p) (some callback) step) (perform e (some callback') step) := by
  refine .read (.bind (.onSession (.onWorld ?_)) fun step c => .bind (.onSession ?_) fun _ c => ?_)
  · exact e.erases_participants installed faulty (Hooks.fits_step _ _) step _
  · exact erases_announce step _
  · by_cases kind : step.kind = .recurse
    · rw [if_pos kind, if_pos kind]
      refine .bind (.bind (.change rfl rfl) fun _ c => .bind (.say rfl rfl) fun _ c =>
        .bind (.onSession (same _ _)) fun _ c => .change rfl rfl) fun _ c => .pure _
    · rw [if_neg kind, if_neg kind]
      refine .bind (.onSession (.read (.pure _))) fun outputs c =>
        .bind (.onSession ?_) fun v c => .pure _
      rw [execute_install]
      exact .doing _ _

include installed faulty in
theorem erases_observe {call : HookCall} (taken : ∀ v, call.refusal? v = none)
    (s : Session (σ × τ)) :
    Erases (Session.view σ τ) position (p e.settings) s
      (Session.onWorld (Hooks.observe call 0 (e.install position p).participants))
      (Session.onWorld (Hooks.observe call 0 e.participants)) :=
  .onWorld (e.erases_participants installed faulty (Hooks.fits_watched taken) () _)

include installed faulty in
theorem erases_settle (step : Step) (v : Value) (c : Course (σ × τ)) :
    Erases (Course.view σ τ) position (p e.settings) c
      (settle (e.install position p) step v) (settle e step v) := by
  refine .read (.bind (.onSession (.change rfl rfl)) fun _ c =>
    .bind (.onSession (.read (.pure _))) fun outputs c => .onSession ?_)
  exact erases_observe installed faulty (fun _ => rfl) _

theorem erases_start (c : Course (σ × τ)) :
    Erases (Course.view σ τ) position (p e.settings) c start start :=
  .bind (.onSession (.change rfl rfl)) fun _ _ => .read (.onSession (.say rfl rfl))

theorem erases_advance (c : Course (σ × τ)) :
    Erases (Course.view σ τ) position (p e.settings) c Course.advance Course.advance :=
  .change rfl rfl

include installed faulty in
theorem erases_executeNext (same : SameCallback position (p e.settings) callback callback')
    (c : Course (σ × τ)) :
    Erases (Course.view σ τ) position (p e.settings) c
      (executeNext (e.install position p) (some callback)) (executeNext e (some callback')) := by
  refine .read ?_
  have looks : ((Course.view σ τ).world c).plan[((Course.view σ τ).world c).index]? =
      c.plan[c.index]? := rfl
  rw [looks]
  cases c.plan[c.index]? with
  | none => exact .change rfl rfl
  | some step =>
    refine .bind (.onSession (.change rfl rfl)) fun _ t => .bind (.change rfl rfl) fun _ t =>
      .bind (.attempt (erases_perform installed faulty same step t)) fun r t => ?_
    -- A failed step is passed over, one that hands over ends the run, and any other one is settled.
    rcases r with f | _ | ⟨step, v⟩
    · exact .bind (.say rfl rfl) fun _ t => erases_advance t
    · exact .pure ()
    · exact .bind (erases_settle installed faulty step v t) fun _ t => erases_advance t

include installed faulty in
theorem erases_finish (c : Course (σ × τ)) :
    Erases (Course.view σ τ) position (p e.settings) c (finish (e.install position p)) (finish e) :=
  .read (.bind (.onSession (.read (.pure _))) fun _ _ =>
    .bind (.onSession (erases_observe installed faulty (fun _ => rfl) _)) fun _ _ =>
      .bind (.change rfl rfl) fun _ _ => .onSession (.change rfl rfl))

include installed faulty in
/-- At each station the machine does the same. -/
theorem erases_visit (same : SameCallback position (p e.settings) callback callback')
    (station : Station) (c : Course (σ × τ)) :
    Erases (Course.view σ τ) position (p e.settings) c
      (visit (e.install position p) (some callback) station) (visit e (some callback') station) := by
  cases station with
  | start => exact erases_start c
  | execute => exact erases_executeNext installed faulty same c
  | finish => exact erases_finish installed faulty c
  | recurse => exact .onSession (.change rfl rfl)

theorem next_outer (station : Station) (c : Course (σ × τ)) :
    next station ((Course.view σ τ).world c) = next station c := by
  cases station <;> rfl

include installed faulty in
/-- And so it does on its way from station to station. -/
theorem erases_drive (same : SameCallback position (p e.settings) callback callback')
    (limit left : ℕ) (station : Station) (c : Course (σ × τ)) :
    Erases (Course.view σ τ) position (p e.settings) c
      (drive (e.install position p) (some callback) limit left station)
      (drive e (some callback') limit left station) := by
  -- By induction on the visits that are left; the next station depends only on what both courses share.
  induction left generalizing station c with
  | zero => exact .fail _
  | succ left ih =>
    refine .bind (erases_visit installed faulty same station c) fun _ c => .read ?_
    rw [next_outer]
    cases next station c with
    | none => exact .pure ()
    | some station => exact ih station c

/-- Work on a session that is done in the course of a plan. -/
theorem erases_course (plan : List Step) {m : Act Event (Course (σ × τ)) α}
    {m' : Act Event (Course σ) α} {q : Plugin (σ × τ)} {s : Session (σ × τ)}
    (h : Erases (Course.view σ τ) position q (Course.ofPlan plan s) m m') :
    Erases (Session.view σ τ) position q s
      (Act.zoom (Course.ofPlan plan) (fun c _ => c.session) m)
      (Act.zoom (Course.ofPlan plan) (fun c _ => c.session) m') := by
  obtain ⟨outcome, visits⟩ := h
  refine ⟨?_, visits⟩
  have outer : m' (Course.ofPlan plan s.outer) = _ := outcome
  simp [Session.view, outer, Course.view, Course.outer]

include installed faulty in
/-- Carrying out a plan comes to the same. -/
theorem erases_run (same : SameCallback position (p e.settings) callback callback')
    (plan : List Step) (s : Session (σ × τ)) :
    Erases (Session.view σ τ) position (p e.settings) s
      (run (e.install position p) (some callback) plan) (run e (some callback') plan) :=
  erases_course plan (.bind (erases_drive installed faulty same _ _ _ _) fun _ _ => .read (.pure _))

end Dispatch

namespace Assistant

open Dispatch

variable (installed : position ≤ e.participants.length) (faulty : (p e.settings).Faulty)
variable {callback : Callback (σ × τ)} {callback' : Callback σ}

theorem erases_notes (notes : List String) (s : Session (σ × τ)) :
    Erases (Session.view σ τ) position (p e.settings) s (notes.forM (Session.note .planning))
      (notes.forM (Session.note .planning)) := by
  induction notes generalizing s with
  | nil => exact .pure _
  | cons text notes ih => exact .bind (.say rfl rfl) fun _ s => ih s

include installed faulty in
theorem erases_plan (request : String) (s : Session (σ × τ)) :
    Erases (Session.view σ τ) position (p e.settings) s
      (plan (e.install position p) request) (plan e request) := by
  refine .read (.bind (.onWorld ?_) fun messages s => .bind (.say rfl rfl) fun _ s =>
    .bind ?_ fun raw s => .bind (.onWorld ?_) fun reply s => .bind (erases_notes _ s) fun _ s =>
      .bind (.ofExcept _) fun steps s => .bind (.onWorld ?_) fun steps s => .pure _)
  · rw [messagesFor_install]
    exact e.erases_participants installed faulty Hooks.fits_messages _ _
  · rw [Engine.complete_install]
    exact .doing _ s
  · exact e.erases_participants installed faulty Hooks.fits_reply raw _
  · exact e.erases_participants installed faulty Hooks.fits_plan steps _

theorem erases_conclude (steps : List Step) (s : Session (σ × τ)) :
    Erases (Session.view σ τ) position (p e.settings) s (conclude steps) (conclude steps) := by
  unfold conclude
  split
  · exact .pure ()
  · exact .say rfl rfl

theorem erases_heading (steps : List Step) (s : Session (σ × τ)) :
    Erases (Session.view σ τ) position (p e.settings) s (announce steps) (announce steps) := by
  unfold announce
  split
  · exact .say rfl rfl
  · exact .pure ()

include installed faulty in
theorem erases_answerWith (same : SameCallback position (p e.settings) callback callback')
    (request : String) (s : Session (σ × τ)) :
    Erases (Session.view σ τ) position (p e.settings) s
      (answerWith (e.install position p) callback request) (answerWith e callback' request) :=
  .bind (erases_plan installed faulty request s) fun found s =>
    .bind (erases_heading found.2 s) fun _ s =>
      .bind (erases_run installed faulty same found.2 s) fun ending s =>
        .bind (erases_conclude found.2 s) fun _ _ => .bind (.change rfl rfl) fun _ _ =>
          .read (.bind (.say rfl rfl) fun _ _ => .pure ending)

theorem erases_nested {m : Act Event (Session (σ × τ)) Ending} {m' : Act Event (Session σ) Ending}
    (same : ∀ s, Erases (Session.view σ τ) position (p e.settings) s m m') (s : Session (σ × τ)) :
    Erases (Session.view σ τ) position (p e.settings) s (nested m) (nested m') := by
  refine .bind (.change rfl rfl) fun _ s => .bind (.attempt (same s)) fun r s => ?_
  cases r with
  | ok ending => exact .change rfl rfl
  | error f => exact .bind (.say rfl rfl) fun _ _ => .change rfl rfl

/-- A further request comes to the same if answering it does. -/
theorem erases_recurse {answer : String → Act Event (Session (σ × τ)) Ending}
    {answer' : String → Act Event (Session σ) Ending}
    (same : ∀ request s, Erases (Session.view σ τ) position (p e.settings) s (answer request)
      (answer' request)) :
    SameCallback position (p e.settings) (recurse (e.install position p) answer)
      (recurse e answer') := by
  intro content s
  refine .read ?_
  by_cases deep : e.settings.levels ≤ s.depth
  · simpa [Session.view, Session.outer, deep] using Erases.fail e.settings.refusal
  · simpa [Session.view, Session.outer, deep] using erases_nested (same content) s

include installed faulty in
/-- Answering a request comes to the same, with all requests that are nested in it. -/
theorem erases_answer (levels : ℕ) (request : String) (s : Session (σ × τ)) :
    Erases (Session.view σ τ) position (p e.settings) s
      (answer (e.install position p) levels request) (answer e levels request) := by
  induction levels generalizing request s with
  | zero =>
    exact erases_answerWith installed faulty (erases_recurse fun _ _ => .fail .tooDeep) request s
  | succ levels ih => exact erases_answerWith installed faulty (erases_recurse ih) request s

include installed faulty in
theorem erases_beginning (s : Session (σ × τ)) :
    Erases (Session.view σ τ) position (p e.settings) s (start (e.install position p)) (start e) := by
  refine .read ?_
  by_cases started : s.started
  · simpa [Session.view, Session.outer, started] using Erases.pure ()
  · simpa [Session.view, Session.outer, started, Hooks.start] using
      Erases.bind (V := Session.view σ τ) (.change rfl rfl)
        fun _ s => erases_observe installed faulty (fun _ => rfl) s

end Assistant

end

namespace Event

/-- What an entry shows on the console. -/
def shown? : Event → Option Deed
  | deed (.show tone text) => some (.show tone text)
  | deed (.stream text delay) => some (.stream text delay)
  | x => x.failureLine?.map (.show .error)

/-- What was done, if an entry tells of that. -/
def deed? : Event → Option Deed
  | deed d => some d
  | _ => none

theorem isFrom_eq_false_of_without {position : ℕ} {x y : Event} (h : x.without position = some y) :
    x.isFrom position = false := by
  cases x with
  | hook n name call =>
    by_cases own : n = position <;> simp_all [without, isFrom]
  | hookFailed n name point f =>
    by_cases own : n = position <;> simp_all [without, isFrom]
  | _ => rfl

theorem without_eq_none_iff {position : ℕ} {x : Event} :
    x.without position = none ↔ x.isFrom position = true := by
  cases x <;> simp [without, isFrom]

/-- What does not depend on the positions of plugins is the same for an entry as it is without a plugin. -/
theorem eq_of_without {g : Event → Option α} (calls : ∀ n m name c, g (hook n name c) = g (hook m name c))
    (failed : ∀ n m name point f, g (hookFailed n name point f) = g (hookFailed m name point f))
    {position : ℕ} {x y : Event} (h : x.without position = some y) : g y = g x := by
  cases x with
  | hook n name c =>
    simp only [without, Option.ite_none_left_eq_some, Option.some.injEq] at h
    rw [← h.2, calls]
  | hookFailed n name point f =>
    simp only [without, Option.ite_none_left_eq_some, Option.some.injEq] at h
    rw [← h.2, failed]
  | _ => rw [← Option.some.inj h]

/-- Other plugins keep apart when the one at a position is left out. -/
theorem closeUp_eq_iff {position n m : ℕ} (hn : n ≠ position) (hm : m ≠ position) :
    closeUp position n = closeUp position m ↔ n = m := by
  unfold closeUp
  split <;> split <;> omega

/-- An entry is heard by another plugin, at the position which that one has without the plugin. -/
theorem heardAt?_of_without {position n : ℕ} (other : n ≠ position) {x y : Event}
    (h : x.without position = some y) : y.heardAt? (closeUp position n) = x.heardAt? n := by
  cases x with
  | hook m name c =>
    simp only [without, Option.ite_none_left_eq_some, Option.some.injEq] at h
    rw [← h.2]
    simp [heardAt?, closeUp_eq_iff h.1 other]
  | hookFailed m name point f =>
    simp only [without, Option.ite_none_left_eq_some, Option.some.injEq] at h
    rw [← h.2]
    rfl
  | _ => rw [← Option.some.inj h]; rfl

end Event

/-- What is read off the entries that do not come from a plugin is read off the log that is left when it is
erased. -/
theorem filterMap_eq_of_erased {position : ℕ} {g g' : Event → Option α}
    (same : ∀ x y, x.without position = some y → g' y = g x) (log : List Event)
    (own : ∀ x ∈ log, x.isFrom position = true → g x = none) :
    log.filterMap g = (log.filterMap (Event.without position)).filterMap g' := by
  induction log with
  | nil => rfl
  | cons x log ih =>
    have later := ih fun y hy => own y (List.mem_cons_of_mem x hy)
    cases h : x.without position with
    | none =>
      have skipped := own x List.mem_cons_self (Event.without_eq_none_iff.mp h)
      simp [h, skipped, later]
    | some y => simp [h, same x y h, later, List.filterMap_cons]

/-- The lines that a log puts on the console. -/
def consoleLines (log : List Event) : List Deed := log.filterMap Event.shown?

/-- All that was done: calls of capabilities, commands, requests, lines and notes. -/
def deedsOf (log : List Event) : List Deed := log.filterMap Event.deed?

/-- The part of a log that does not come from the plugin at a position. -/
def apartFrom (position : ℕ) (log : List Event) : List Event :=
  log.filter fun x => !x.isFrom position

theorem filterMap_apartFrom {position : ℕ} {g g' : Event → Option α}
    (same : ∀ x y, x.without position = some y → g' y = g x) (log : List Event) :
    (apartFrom position log).filterMap g = (log.filterMap (Event.without position)).filterMap g' := by
  have erased : (apartFrom position log).filterMap (Event.without position) =
      log.filterMap (Event.without position) := by
    rw [apartFrom, List.filterMap_filter]
    refine List.filterMap_congr fun x _ => ?_
    cases h : x.without position with
    | none => simp
    | some y => simp [Event.isFrom_eq_false_of_without h]
  rw [← erased]
  refine filterMap_eq_of_erased same _ fun x hx own => ?_
  have apart := (List.mem_filter.mp hx).2
  simp [own] at apart

/-- With a plugin and without it, what an action comes to is the same but for the reports of the plugin. -/
structure Inert (position : ℕ) (p : Plugin (σ × τ)) (t : τ) (r : Outcome Event (Session (σ × τ)) α)
    (r' : Outcome Event (Session σ) α) : Prop where
  /-- The result is the same, and so is all that is left, in particular the history. -/
  result : r.result = r'.result
  session : ∃ t', r.world = r'.world.beside t'
  history : r.world.history = r'.world.history
  /-- The provider gets the same messages, and the same is done: each capability is called with the
  same arguments, each command is run. -/
  requests : planRequests r.log = planRequests r'.log
  deeds : deedsOf r.log = deedsOf r'.log
  /-- Every other plugin gets the same calls. -/
  others : ∀ n, n ≠ position → heard n r.log = heard (Event.closeUp position n) r'.log
  /-- All that is logged is the same, and so are the lines on the console and the failures of plugins,
  apart from what comes from the plugin. -/
  log : r.log.filterMap (Event.without position) = r'.log
  console : consoleLines (apartFrom position r.log) = consoleLines r'.log
  failures : pluginFailures (apartFrom position r.log) = pluginFailures r'.log
  /-- What comes from the plugin is one failure for each of its calls that failed or was turned down, in
  the order of the calls, and the line that reports it. -/
  own : ∃ visits t', Visited p t visits t' ∧ heard position r.log = visits.map Visit.call ∧
    pluginFailures (r.log.filter (Event.isFrom position)) =
      visits.filterMap (fun v => (v.call.failure? v.answer).map (p.name, v.call.name, ·)) ∧
    consoleLines (r.log.filter (Event.isFrom position)) =
      visits.filterMap fun v => (v.call.failure? v.answer).map fun f =>
        .show .error (Fault.hookFailed p.name v.call.name f).message

/-- What is read off the calls in the entries of visits. -/
theorem filterMap_calls {g : Event → Option α} {position : ℕ} {name : String} {a : HookCall → α}
    (calls : ∀ c, g (.hook position name c) = some (a c))
    (failed : ∀ point f, g (.hookFailed position name point f) = none) (visits : List Visit) :
    (visits.flatMap (Visit.entries position name)).filterMap g = visits.map fun v => a v.call := by
  induction visits with
  | nil => rfl
  | cons v visits ih =>
    rw [List.flatMap_cons, List.filterMap_append, ih, Visit.entries]
    cases v.call.failure? v.answer <;> simp [calls, failed]

/-- What is read off the failures in the entries of visits. -/
theorem filterMap_failures {g : Event → Option α} {position : ℕ} {name : String}
    {a : String → Fault → α} (calls : ∀ c, g (.hook position name c) = none)
    (failed : ∀ point f, g (.hookFailed position name point f) = some (a point f))
    (visits : List Visit) :
    (visits.flatMap (Visit.entries position name)).filterMap g =
      visits.filterMap fun v => (v.call.failure? v.answer).map (a v.call.name) := by
  induction visits with
  | nil => rfl
  | cons v visits ih =>
    rw [List.flatMap_cons, List.filterMap_append, ih, Visit.entries]
    cases h : v.call.failure? v.answer <;> simp [calls, failed, h]

/-- The plugin at a position hears what the entries that come from it tell of. -/
theorem heard_filter_isFrom (position : ℕ) (log : List Event) :
    heard position (log.filter (Event.isFrom position)) = heard position log := by
  rw [heard, List.filterMap_filter]
  refine List.filterMap_congr fun x _ => ?_
  cases x with
  | hook n name c => by_cases own : n = position <;> simp [Event.isFrom, Event.heardAt?, own]
  | _ => simp [Event.heardAt?]

/-- An action that erases to another one differs from it in nothing else. -/
theorem Erases.inert {position : ℕ} {p : Plugin (σ × τ)} {s : Session σ} {t : τ}
    {m : Act Event (Session (σ × τ)) α} {m' : Act Event (Session σ) α}
    (h : Erases (Session.view σ τ) position p (s.beside t) m m') :
    Inert position p t (m (s.beside t)) (m' s) := by
  obtain ⟨outcome, visits, visited, entries⟩ := h
  have looks : m' s = _ := outcome
  rw [looks]
  -- Each field reads a part of the log. What comes from the plugin has no share in the first ones, and is told
  -- by its visits in the last three.
  refine ⟨rfl, ⟨_, rfl⟩, rfl, ?_, ?_, fun n other => ?_, rfl, ?_, ?_, visits, _, visited, ?_, ?_, ?_⟩
  · refine filterMap_eq_of_erased
      (fun _ _ => Event.eq_of_without (fun _ _ _ _ => rfl) fun _ _ _ _ _ => rfl) _ fun x _ own => ?_
    cases x <;> first | rfl | cases own
  · refine filterMap_eq_of_erased
      (fun _ _ => Event.eq_of_without (fun _ _ _ _ => rfl) fun _ _ _ _ _ => rfl) _ fun x _ own => ?_
    cases x <;> first | rfl | cases own
  · refine filterMap_eq_of_erased (fun _ _ => Event.heardAt?_of_without other) _ fun x _ own => ?_
    cases x with
    | hook m name c => simp_all [Event.isFrom, Event.heardAt?, Ne.symm other]
    | hookFailed m name point f => rfl
    | _ => cases own
  · exact filterMap_apartFrom
      (fun _ _ => Event.eq_of_without (fun _ _ _ _ => rfl) fun _ _ _ _ _ => rfl) _
  · exact filterMap_apartFrom
      (fun _ _ => Event.eq_of_without (fun _ _ _ _ => rfl) fun _ _ _ _ _ => rfl) _
  · rw [← heard_filter_isFrom, entries]
    exact filterMap_calls (g := Event.heardAt? position) (fun _ => if_pos rfl) (fun _ _ => rfl) visits
  · rw [entries]
    exact filterMap_failures (g := Event.pluginFailure?) (fun _ => rfl) (fun _ _ => rfl) visits
  · rw [entries]
    exact filterMap_failures (g := Event.shown?) (fun _ => rfl) (fun _ _ => rfl) visits

namespace Assistant

/-- A plugin that is good for nothing, put at any position among the plugins of an engine, changes neither
how the plugins are told that all is ready nor how a request is answered. -/
theorem faulty_plugin_inert (e : Engine σ) (position : ℕ) (installed : position ≤ e.participants.length)
    (p : Settings → Plugin (σ × τ)) (faulty : (p e.settings).Faulty) (s : Session σ) (t : τ) :
    Inert position (p e.settings) t (start (e.install position p) (s.beside t)) (start e s) ∧
      ∀ request, Inert position (p e.settings) t
        (run (e.install position p) request (s.beside t)) (run e request s) :=
  ⟨(erases_beginning installed faulty (s.beside t)).inert,
    fun request => (erases_answer installed faulty e.settings.levels request (s.beside t)).inert⟩

/-- What a plugin answers that fails at every other call, and else has nothing to say or says a number. -/
def erratic : HookCall → ℕ → Except Fault Value
  | .afterReply _, n => if n % 2 = 0 then .error .tooDeep else .ok .null
  | _, n => if n % 2 = 0 then .error .tooDeep else .ok (.int n)

/-- A plugin that counts its calls, and is good for nothing. -/
def counting : Plugin (Unit × ℕ) where
  name := "counting"
  hook call := some fun s => ⟨erratic call s.2, (s.1, s.2 + 1), []⟩

theorem counting_faulty : counting.Faulty := by
  refine ⟨fun call w n => ⟨erratic call n, n + 1, rfl, ?_⟩⟩
  by_cases even : n % 2 = 0
  · cases call <;> simp [erratic, even, HookCall.Useless]
  · cases call <;> simp [erratic, even, HookCall.Useless, HookCall.isTransform, HookCall.refusal?,
      Hooks.acceptMessages, Hooks.acceptPlan, Hooks.acceptStep, Fault.elements, Value.elements,
      Except.mapError, faultOf?]

/-- Between two plugins, in a request that hands over twice to a further one. -/
theorem counting_inert :
    1 ≤ (Engine.plain (.int 2) "" [insistent]).participants.length ∧ counting.Faulty ∧
      (∀ request, Inert 1 counting 0
        (run ((Engine.plain (.int 2) "" [insistent]).install 1 fun _ => counting) request
          ((Session.fresh ()).beside 0))
        (run (.plain (.int 2) "" [insistent]) request (.fresh ()))) ∧
      (pluginFailures (run ((Engine.plain (.int 2) "" [insistent]).install 1 fun _ => counting) "go"
        ((Session.fresh ()).beside 0)).log).length = 11 :=
  ⟨by decide +kernel, counting_faulty,
    (faulty_plugin_inert _ 1 (by decide +kernel) (fun _ => counting) counting_faulty (.fresh ()) 0).2,
    by decide +kernel⟩

end Assistant

end Stepwise
