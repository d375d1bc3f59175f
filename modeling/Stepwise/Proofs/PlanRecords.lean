import Mathlib.Data.List.Basic
import Stepwise.Proofs.StepRecords

/-!
The records of a plan. A walk goes through the steps of a plan in order and ends with the plan or with
the step that hands over. Every plan has its walk, and the machine makes it with at most three visits
more than there are steps, so it never meets its limit.
-/

namespace Stepwise.Dispatch

variable {σ : Type}

/-- The entry that opens the log of a plan. -/
def opening (plan : List Step) : Event :=
  .deed (.diagnostic .debug .dispatcher ("Dispatching " ++ toString plan.length ++ " steps"))

/-- The session in which the first step of a plan begins. -/
def cleared (s : Session σ) : Session σ := { s with outputs := .empty, phase := .running }

section

variable (e : Engine σ) (callback : Option (Callback σ)) (plan : List Step)

/-- The steps of a plan that are begun from an index on: their records, what is logged after the last
of them, how the plan ends, and the session that is left. -/
inductive Walk : ℕ → List Step → Session σ → List (Record σ) → List Event → Ending → Session σ → Prop
  | finished {index : ℕ} {s : Session σ} {w : σ} {closing : List Event}
      (observed : Hooks.afterRun e.participants plan s.outputs.items s.world = ⟨.ok (), w, closing⟩) :
      Walk index [] s [] closing ⟨.done, index, s.outputs.items⟩ { s with world := w, phase := .done }
  | handedOver {index : ℕ} {planned : Step} {rest : List Step} {s s' : Session σ} {r : Record σ}
      (begun : Begun e callback plan index planned s r s') (ceded : r.fate = .handedOver) :
      Walk index (planned :: rest) s [r] [] ⟨.recursing, index + 1, r.ready.outputs.items⟩
        { s' with phase := .recursing }
  | next {index : ℕ} {planned : Step} {rest : List Step} {s s' s'' : Session σ} {r : Record σ}
      {records : List (Record σ)} {closing : List Event} {ending : Ending}
      (begun : Begun e callback plan index planned s r s') (on : r.fate ≠ .handedOver)
      (walk : Walk (index + 1) rest s' records closing ending s'') :
      Walk index (planned :: rest) s (r :: records) closing ending s''

/-- Every plan can be walked to an end. -/
theorem walk_total (rest : List Step) (index : ℕ) (s : Session σ) :
    ∃ records closing ending s', Walk e callback plan index rest s records closing ending s' := by
  induction rest generalizing index s with
  | nil =>
    obtain ⟨w, closing, observed, -⟩ :=
      Hooks.observe_spec (.afterRun plan s.outputs.items) e.participants s.world
    exact ⟨_, _, _, _, .finished observed⟩
  | cons planned rest ih =>
    obtain ⟨r, s', begun⟩ := begun_total e callback plan index planned s
    by_cases ceded : r.fate = .handedOver
    · exact ⟨_, _, _, _, .handedOver begun ceded⟩
    · obtain ⟨records, closing, ending, s'', walk⟩ := ih (index + 1) s'
      exact ⟨_, _, _, _, .next begun ceded walk⟩

/-- The machine works from a station on and comes to rest after exactly so many visits. -/
inductive Passage : ℕ → Station → Course σ → List Event → Course σ → Prop
  | last {station : Station} {c c' : Course σ} {log : List Event}
      (visited : visit e callback station c = ⟨.ok (), c', log⟩) (rest : next station c' = none) :
      Passage 1 station c log c'
  | go {n : ℕ} {station station' : Station} {c c' c'' : Course σ} {log log' : List Event}
      (visited : visit e callback station c = ⟨.ok (), c', log⟩)
      (on : next station c' = some station') (passage : Passage n station' c' log' c'') :
      Passage (n + 1) station c (log ++ log') c''

end

variable {e : Engine σ} {callback : Option (Callback σ)} {plan : List Step}

/-- A limit that allows for all visits has no influence. -/
theorem drive_of_passage {n limit left : ℕ} {station : Station} {c c' : Course σ} {log : List Event}
    (passage : Passage e callback n station c log c') (enough : n ≤ left) :
    drive e callback limit left station c = ⟨.ok (), c', log⟩ := by
  induction passage generalizing left with
  | last visited rest =>
    obtain ⟨left, rfl⟩ := Nat.exists_eq_add_of_le' enough
    simp [drive, visited, rest]
  | go visited on passage ih =>
    obtain ⟨left, rfl⟩ := Nat.exists_eq_add_of_le' enough
    rw [← Nat.add_assoc]
    simp [drive, visited, on, ih (Nat.le_add_left _ left)]

/-- The machine is about to begin the step at an index, and nothing has ended the plan yet. -/
structure Underway (plan : List Step) (index : ℕ) (s : Session σ) (c : Course σ) : Prop where
  plan_eq : c.plan = plan
  index_eq : c.index = index
  executed_eq : c.executed = index
  unfinished : c.finished = false
  not_handedOver : c.handedOver = none
  session_eq : c.session = s

theorem Underway.passed {index : ℕ} {s s' : Session σ} {c : Course σ} (h : Underway plan index s c)
    (stale : Option (List Value)) : Underway plan (index + 1) s' (c.passed stale s') where
  plan_eq := h.plan_eq
  index_eq := congrArg (· + 1) h.index_eq
  executed_eq := congrArg (· + 1) h.executed_eq
  unfinished := h.unfinished
  not_handedOver := h.not_handedOver
  session_eq := rfl

theorem getElem?_of_drop_eq_cons {index : ℕ} {planned : Step} {rest : List Step}
    (here : plan.drop index = planned :: rest) : plan[index]? = some planned := by
  rw [← List.head?_drop, here, List.head?_cons]

theorem drop_succ_of_drop_eq_cons {index : ℕ} {planned : Step} {rest : List Step}
    (here : plan.drop index = planned :: rest) : plan.drop (index + 1) = rest := by
  rw [← List.tail_drop, here, List.tail_cons]

/-- The machine makes the walk: each step takes one visit, and the end of the plan at most two. -/
theorem passage_of_walk {index : ℕ} {rest : List Step} {s s' : Session σ} {records : List (Record σ)}
    {closing : List Event} {ending : Ending} {c : Course σ}
    (walk : Walk e callback plan index rest s records closing ending s')
    (here : plan.drop index = rest) (underway : Underway plan index s c) :
    ∃ n c', n ≤ rest.length + 2 ∧
      Passage e callback n .execute c (records.flatMap Record.log ++ closing) c' ∧
      c'.ending = ending ∧ c'.session = s' := by
  induction walk generalizing c with
  | @finished index s w closing observed =>
    obtain ⟨rfl, rfl, executed, unfinished, ceded, rfl⟩ := underway
    have used : c.plan[c.index]? = none := List.getElem?_eq_none (List.drop_eq_nil_iff.mp here)
    have found : visit e callback .execute c = ⟨.ok (), { c with finished := true }, []⟩ := by
      simp [visit, executeNext, used]
    have closed : visit e callback .finish { c with finished := true } =
        ⟨.ok (), { c with
          finished := true
          outputs := some c.session.outputs.items
          session := { c.session with world := w, phase := .done } }, closing⟩ := by
      simp [visit, finish, observed]
    refine ⟨2, _, Nat.le_add_left 2 _, .go found ?_ (.last closed rfl), ?_, rfl⟩
    · simp [next, ceded]
    · simp [Course.ending, executed]
  | @handedOver index planned rest s s' r begun ceded =>
    obtain ⟨rfl, rfl, executed, unfinished, -, rfl⟩ := underway
    obtain ⟨-, yielded⟩ | ⟨on, -⟩ := executeNext_of_begun (getElem?_of_drop_eq_cons here) begun
    · have visited : visit e callback .execute c = ⟨.ok (), c.yielded r s', r.log⟩ := yielded
      have closed : visit e callback .recurse (c.yielded r s') =
          ⟨.ok (), c.yielded r { s' with phase := .recursing }, []⟩ := rfl
      refine ⟨2, c.yielded r { s' with phase := .recursing }, Nat.le_add_left 2 _, ?_, ?_, rfl⟩
      · simpa using Passage.go visited rfl (.last closed rfl)
      · simp [Course.ending, Course.yielded, executed]
    · exact absurd ceded on
  | @next index planned rest s s' s'' r records closing ending begun on walk ih =>
    obtain ⟨rfl, rfl, executed, unfinished, open_, rfl⟩ := underway
    obtain ⟨ceded, -⟩ | ⟨-, stale, passed⟩ :=
      executeNext_of_begun (getElem?_of_drop_eq_cons here) begun
    · exact absurd ceded on
    · have underway : Underway c.plan (c.index + 1) s' (c.passed stale s') :=
        Underway.passed ⟨rfl, rfl, executed, unfinished, open_, rfl⟩ stale
      have visited : visit e callback .execute c = ⟨.ok (), c.passed stale s', r.log⟩ := passed
      obtain ⟨n, c', hn, passage, hending, hsession⟩ := ih (drop_succ_of_drop_eq_cons here) underway
      have onward : next .execute (c.passed stale s') = some .execute := by
        simp [next, underway.not_handedOver, underway.unfinished]
      refine ⟨n + 1, c', ?_, ?_, hending, hsession⟩
      · simp only [List.length_cons]
        omega
      · simpa using Passage.go visited onward passage

/-- The whole of a plan takes at most three visits more than it has steps. -/
theorem passage_start_of_walk {s s' : Session σ} {records : List (Record σ)} {closing : List Event}
    {ending : Ending} (walk : Walk e callback plan 0 plan (cleared s) records closing ending s') :
    ∃ n c', n ≤ plan.length + 3 ∧
      Passage e callback n .start (Course.ofPlan plan s)
        (opening plan :: (records.flatMap Record.log ++ closing)) c' ∧
      c'.ending = ending ∧ c'.session = s' := by
  have visited : visit e callback .start (Course.ofPlan plan s) =
      ⟨.ok (), Course.ofPlan plan (cleared s), [opening plan]⟩ := rfl
  have underway : Underway plan 0 (cleared s) (Course.ofPlan plan (cleared s)) :=
    ⟨rfl, rfl, rfl, rfl, rfl, rfl⟩
  obtain ⟨n, c', hn, passage, hending, hsession⟩ := passage_of_walk walk List.drop_zero underway
  exact ⟨n + 1, c', by omega, .go visited rfl passage, hending, hsession⟩

/-- Carrying out a plan is its walk; the limit of the machine has no part in it. -/
theorem run_of_walk {s s' : Session σ} {records : List (Record σ)} {closing : List Event}
    {ending : Ending} (walk : Walk e callback plan 0 plan (cleared s) records closing ending s') :
    run e callback plan s =
      ⟨.ok ending, s', opening plan :: (records.flatMap Record.log ++ closing)⟩ := by
  obtain ⟨n, c', hn, passage, rfl, rfl⟩ := passage_start_of_walk walk
  have enough : n ≤ plan.length + overhead := by
    unfold overhead
    omega
  simp [run, drive_of_passage passage enough]

end Stepwise.Dispatch
