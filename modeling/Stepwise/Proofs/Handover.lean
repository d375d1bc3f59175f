import Mathlib.Data.List.Basic
import Stepwise.Proofs.Accounts

/-!
What handing over leaves behind. Where further requests that are refused leave everything as it was, a
plan touches the conversation and the depth only through the one further request that it hands over to,
and depends on further requests only through what they do for its own steps.
-/

namespace Stepwise

open Dispatch

variable {σ : Type}

/-- A further request that is refused leaves everything as it was. -/
def Refuses (callback : Callback σ) : Prop :=
  ∀ content s f s' log, callback content s = ⟨.error f, s', log⟩ → s' = s ∧ log = []

theorem Refuses.keepsOutputs {callback : Callback σ} (h : Refuses callback) :
    KeepsOutputs (some callback) := by
  rintro further ⟨⟩ content s f s' log called
  rw [(h content s f s' log called).1]

namespace Dispatch

variable {e : Engine σ} {callback callback' : Callback σ} {plan : List Step}

namespace Begun

variable {index : ℕ} {planned : Step} {s s' : Session σ} {r : Record σ}

/-- The plugins that prepare a step touch neither the conversation nor the depth. -/
theorem ready_frame {callback : Option (Callback σ)}
    (h : Begun e callback plan index planned s r s') :
    r.ready.history = s.history ∧ r.ready.depth = s.depth := by
  cases h <;> exact ⟨rfl, rfl⟩

/-- Nor does a step that does not hand over; and no further request logs anything then. -/
theorem frame (h : Begun e (some callback) plan index planned s r s') (refuses : Refuses callback)
    (on : r.fate ≠ .handedOver) : s'.history = s.history ∧ s'.depth = s.depth ∧ r.nested = [] := by
  cases h with
  | completed prepared kind executed observed => exact ⟨rfl, rfl, rfl⟩
  | failed prepared kind executed => exact ⟨rfl, rfl, rfl⟩
  | unhandled prepared kind absent => exact absurd absent (Option.some_ne_none _)
  | refused prepared kind present called =>
    obtain rfl := Option.some.inj present
    obtain ⟨rfl, rfl⟩ := refuses _ _ _ _ _ called
    exact ⟨rfl, rfl, rfl⟩
  | handedOver prepared kind present called => exact absurd rfl on

/-- A step that hands over leaves what the further request leaves. -/
theorem called (h : Begun e (some callback) plan index planned s r s') (ceded : r.fate = .handedOver) :
    callback r.step.content r.ready = ⟨.ok (), s', r.nested⟩ := by
  cases h with
  | handedOver prepared kind present called =>
    obtain rfl := Option.some.inj present
    exact called
  | _ => cases ceded

/-- A step that asks for a further request without handing over was refused. -/
theorem refusal (h : Begun e (some callback) plan index planned s r s') (refuses : Refuses callback)
    (kind : r.step.kind = .recurse) (on : r.fate ≠ .handedOver) :
    ∃ f, callback r.step.content r.ready = ⟨.error f, r.ready, []⟩ ∧ r.fate = .failed f ∧
      r.nested = [] ∧ r.after = [.stepFailed r.index f] := by
  cases h with
  | completed prepared other executed observed => exact absurd kind other
  | failed prepared other executed => exact absurd kind other
  | unhandled prepared kind absent => exact absurd absent (Option.some_ne_none _)
  | refused prepared kind present called =>
    obtain rfl := Option.some.inj present
    obtain ⟨rfl, rfl⟩ := refuses _ _ _ _ _ called
    exact ⟨_, called, rfl, rfl, rfl⟩
  | handedOver prepared kind present called => exact absurd rfl on

/-- Only what a further request does for the step at hand matters. -/
theorem congr (h : Begun e (some callback) plan index planned s r s')
    (same : r.step.kind = .recurse →
      callback' r.step.content r.ready = callback r.step.content r.ready) :
    Begun e (some callback') plan index planned s r s' := by
  cases h with
  | completed prepared kind executed observed => exact .completed prepared kind executed observed
  | failed prepared kind executed => exact .failed prepared kind executed
  | unhandled prepared kind absent => exact absurd absent (Option.some_ne_none _)
  | refused prepared kind present called =>
    obtain rfl := Option.some.inj present
    exact .refused prepared kind rfl ((same kind).trans called)
  | handedOver prepared kind present called =>
    obtain rfl := Option.some.inj present
    exact .handedOver prepared kind rfl ((same kind).trans called)

end Begun

namespace Walk

variable {index : ℕ} {rest : List Step} {s s' : Session σ} {records : List (Record σ)}
variable {closing : List Event} {ending : Ending}

/-- All steps of a plan are carried out in the same conversation and at the same depth. -/
theorem ready_frame (h : Walk e (some callback) plan index rest s records closing ending s')
    (refuses : Refuses callback) :
    ∀ r ∈ records, r.ready.history = s.history ∧ r.ready.depth = s.depth := by
  induction h with
  | finished observed => exact fun r hr => absurd hr List.not_mem_nil
  | handedOver begun ceded =>
    intro r hr
    obtain rfl := List.mem_singleton.mp hr
    exact begun.ready_frame
  | next begun on walk ih =>
    intro r hr
    obtain rfl | hr := List.mem_cons.mp hr
    · exact begun.ready_frame
    · obtain ⟨hhistory, hdepth, -⟩ := begun.frame refuses on
      obtain ⟨hhistory', hdepth'⟩ := ih r hr
      exact ⟨hhistory'.trans hhistory, hdepth'.trans hdepth⟩

/-- A plan that is carried out to its end leaves the conversation and the depth as they were. -/
theorem frame_of_stays (h : Walk e (some callback) plan index rest s records closing ending s')
    (refuses : Refuses callback) (stays : ∀ r ∈ records, r.fate ≠ .handedOver) :
    s'.history = s.history ∧ s'.depth = s.depth ∧ records.flatMap Record.nested = [] := by
  induction h with
  | finished observed => exact ⟨rfl, rfl, rfl⟩
  | handedOver begun ceded => exact absurd ceded (stays _ List.mem_cons_self)
  | next begun on walk ih =>
    obtain ⟨hhistory, hdepth, hnested⟩ := begun.frame refuses on
    obtain ⟨hhistory', hdepth', hnested'⟩ := ih fun r hr => stays r (List.mem_cons_of_mem _ hr)
    refine ⟨hhistory'.trans hhistory, hdepth'.trans hdepth, ?_⟩
    rw [List.flatMap_cons, hnested, hnested', List.nil_append]

/-- A plan that hands over leaves what the further request leaves, and nothing else is nested in it. -/
theorem frame_of_over (h : Walk e (some callback) plan index rest s records closing ending s')
    (refuses : Refuses callback) {r : Record σ} (member : r ∈ records) (ceded : r.fate = .handedOver) :
    ∃ t, callback r.step.content r.ready = ⟨.ok (), t, r.nested⟩ ∧ s'.history = t.history ∧
      s'.depth = t.depth ∧ records.flatMap Record.nested = r.nested := by
  induction h with
  | finished observed => exact absurd member List.not_mem_nil
  | @handedOver index planned rest s s' r' begun ceded' =>
    obtain rfl := List.mem_singleton.mp member
    exact ⟨s', begun.called ceded, rfl, rfl, by simp⟩
  | next begun on walk ih =>
    obtain rfl | member := List.mem_cons.mp member
    · exact absurd ceded on
    · obtain ⟨t, called, hhistory, hdepth, hnested⟩ := ih member
      obtain ⟨-, -, hnil⟩ := begun.frame refuses on
      refine ⟨t, called, hhistory, hdepth, ?_⟩
      rw [List.flatMap_cons, hnil, hnested, List.nil_append]

/-- A record of the walk is that of a step that was begun. -/
theorem begun_of_mem {callback : Option (Callback σ)}
    (h : Walk e callback plan index rest s records closing ending s') {r : Record σ}
    (member : r ∈ records) : ∃ i planned t t', Begun e callback plan i planned t r t' := by
  induction h with
  | finished observed => exact absurd member List.not_mem_nil
  | handedOver begun ceded =>
    obtain rfl := List.mem_singleton.mp member
    exact ⟨_, _, _, _, begun⟩
  | next begun on walk ih =>
    obtain rfl | member := List.mem_cons.mp member
    · exact ⟨_, _, _, _, begun⟩
    · exact ih member

/-- At most one step of a plan hands over. -/
theorem over_unique {callback : Option (Callback σ)}
    (h : Walk e callback plan index rest s records closing ending s') {r r' : Record σ}
    (member : r ∈ records) (ceded : r.fate = .handedOver) (member' : r' ∈ records)
    (ceded' : r'.fate = .handedOver) : r = r' := by
  obtain ⟨-, -, stays⟩ | ⟨-, init, last, rfl, -, stays⟩ := h.ending_cases
  · exact absurd ceded (stays r member)
  · have is_last : ∀ r ∈ init ++ [last], r.fate = .handedOver → r = last := by
      intro r member ceded
      obtain member | member := List.mem_append.mp member
      · exact absurd ceded (stays r member)
      · exact List.mem_singleton.mp member
    rw [is_last r member ceded, is_last r' member' ceded']

/-- Only what further requests do for the steps of the plan matters. -/
theorem congr (h : Walk e (some callback) plan index rest s records closing ending s')
    (same : ∀ r ∈ records, r.step.kind = .recurse →
      callback' r.step.content r.ready = callback r.step.content r.ready) :
    Walk e (some callback') plan index rest s records closing ending s' := by
  induction h with
  | finished observed => exact .finished observed
  | handedOver begun ceded => exact .handedOver (begun.congr (same _ List.mem_cons_self)) ceded
  | next begun on walk ih =>
    exact .next (begun.congr (same _ List.mem_cons_self)) on
      (ih fun r hr => same r (List.mem_cons_of_mem _ hr))

end Walk

end Dispatch

end Stepwise
