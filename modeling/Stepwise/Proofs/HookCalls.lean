import Mathlib.Data.List.Basic
import Stepwise.Plugin.Hooks
import Stepwise.Proofs.Actions

/-!
What plugins hear. The calls that a plugin gets are read off the log by its position. Passing a value
through plugins never fails, and calls each of them exactly once, whatever they answer.
-/

namespace Stepwise

/-- The call that an entry of the log tells of, if it went to the plugin at a position. -/
def Event.heardAt? (position : Nat) : Event → Option HookCall
  | .hook p _ call => if p = position then some call else none
  | _ => none

/-- The calls that the plugin at a position got, in order. -/
def heard (position : Nat) (log : List Event) : List HookCall :=
  log.filterMap (Event.heardAt? position)

@[simp] theorem heard_nil (position : Nat) : heard position [] = [] := rfl

@[simp] theorem heard_append (position : Nat) (log log' : List Event) :
    heard position (log ++ log') = heard position log ++ heard position log' :=
  List.filterMap_append

@[simp] theorem heard_deed (position : Nat) (d : Deed) (log : List Event) :
    heard position (.deed d :: log) = heard position log := rfl

@[simp] theorem heard_deeds (position : Nat) (deeds : List Deed) :
    heard position (deeds.map .deed) = [] := by
  induction deeds with
  | nil => rfl
  | cons d deeds ih => exact ih

@[simp] theorem heard_stepFailed (position index : Nat) (f : Fault) (log : List Event) :
    heard position (.stepFailed index f :: log) = heard position log := rfl

@[simp] theorem heard_handoff (position : Nat) (content : String) (log : List Event) :
    heard position (.handoff content :: log) = heard position log := rfl

@[simp] theorem heard_nestedFailed (position : Nat) (f : Fault) (log : List Event) :
    heard position (.nestedFailed f :: log) = heard position log := rfl

@[simp] theorem heard_planning (position : Nat) (messages : List Message) (log : List Event) :
    heard position (.planning messages :: log) = heard position log := rfl

/-- Whether an entry comes from calling plugins. -/
def Event.isPluginEntry : Event → Bool
  | .deed _ => true
  | .hook .. => true
  | .hookFailed .. => true
  | _ => false

theorem heard_hook (position p : Nat) (name : String) (call : HookCall) (log : List Event) :
    heard position (.hook p name call :: log) =
      (if p = position then [call] else []) ++ heard position log := by
  by_cases h : p = position <;> simp [heard, Event.heardAt?, h]

namespace Hooks

variable {σ α : Type}

/-- A plugin is called once, and what it answers cannot fail. -/
theorem ask_spec (accept : Value → Except Fault α) (n : Nat) (p : Plugin σ) (call : HookCall) (a : α)
    (w : σ) :
    ∃ b w' rest, ask accept n p call a w = ⟨.ok b, w', .hook n p.name call :: rest⟩ ∧
      (∀ x ∈ rest, x.isPluginEntry) ∧ ∀ position, heard position rest = [] := by
  have deeds : ∀ x ∈ (p.answer call w).log.map Event.deed, x.isPluginEntry := by
    intro x hx
    obtain ⟨d, -, rfl⟩ := List.mem_map.mp hx
    rfl
  cases answered : answerOf accept (p.answer call w).result with
  | ok replacement =>
    cases replacement with
    | some b =>
      exact ⟨b, (p.answer call w).world, (p.answer call w).log.map .deed, by simp [ask, answered],
        deeds, fun position => by simp⟩
    | none =>
      exact ⟨a, (p.answer call w).world, (p.answer call w).log.map .deed, by simp [ask, answered],
        deeds, fun position => by simp⟩
  | error f =>
    refine ⟨a, (p.answer call w).world,
      (p.answer call w).log.map .deed ++ [.hookFailed n p.name call.name f], by simp [ask, answered],
      fun x hx => ?_, fun position => by simp [heard, Event.heardAt?]⟩
    obtain hx | hx := List.mem_append.mp hx
    · exact deeds x hx
    · obtain rfl := List.mem_singleton.mp hx
      rfl

/-- Whether a position lies among those that plugins have from `n` on. -/
def Among (ps : List (Plugin σ)) (n position : Nat) : Prop := n ≤ position ∧ position < n + ps.length

instance (ps : List (Plugin σ)) (n position : Nat) : Decidable (Among ps n position) :=
  inferInstanceAs (Decidable (_ ∧ _))

/-- A value that is passed through plugins comes out, and each plugin is called once on the way. -/
theorem transform_spec (accept : Value → Except Fault α) (call : α → HookCall) (ps : List (Plugin σ))
    (n : Nat) (a : α) (w : σ) :
    ∃ b w' log, transform accept call n ps a w = ⟨.ok b, w', log⟩ ∧
      (∀ x ∈ log, x.isPluginEntry) ∧
      ∀ position, ∃ c, heard position log = if Among ps n position then [call c] else [] := by
  induction ps generalizing n a w with
  | nil =>
    refine ⟨a, w, [], rfl, fun x hx => absurd hx List.not_mem_nil, fun position => ⟨a, ?_⟩⟩
    rw [if_neg (by simp only [Among, List.length_nil]; omega)]
    rfl
  | cons p ps ih =>
    obtain ⟨b, w', rest, hask, hentries, hrest⟩ := ask_spec accept n p (call a) a w
    obtain ⟨b', w'', log, htransform, hentries', hheard⟩ := ih (n + 1) b w'
    refine ⟨b', w'', (.hook n p.name (call a) :: rest) ++ log, ?_, fun x hx => ?_, fun position => ?_⟩
    · simp only [transform, Act.bind_apply, hask, Outcome.andThen_ok, htransform, Act.after_mk]
    · obtain hx | hx := List.mem_append.mp hx
      · obtain rfl | hx := List.mem_cons.mp hx
        · rfl
        · exact hentries x hx
      · exact hentries' x hx
    · obtain ⟨c, hc⟩ := hheard position
      rw [heard_append, heard_hook, hrest, hc]
      by_cases h : n = position
      · refine ⟨a, ?_⟩
        have hself : Among (p :: ps) n position := by simp only [Among, List.length_cons]; omega
        have hlater : ¬ Among ps (n + 1) position := by simp only [Among]; omega
        rw [if_pos h, if_pos hself, if_neg hlater]
        rfl
      · refine ⟨c, ?_⟩
        have hiff : Among (p :: ps) n position ↔ Among ps (n + 1) position := by
          simp only [Among, List.length_cons]
          omega
        simp only [h, hiff, if_false, List.nil_append]

/-- The log of passing a value through plugins holds nothing else. -/
theorem entries_of_transform {accept : Value → Except Fault α} {call : α → HookCall}
    {ps : List (Plugin σ)} {n : Nat} {a : α} {w w' : σ} {r : Except Fault α} {log : List Event}
    (h : transform accept call n ps a w = ⟨r, w', log⟩) : ∀ x ∈ log, x.isPluginEntry := by
  obtain ⟨_, _, _, h', hentries, -⟩ := transform_spec accept call ps n a w
  obtain ⟨-, -, rfl⟩ := Outcome.mk.inj (h.symm.trans h')
  exact hentries

/-- Plugins hear only the calls that a value is passed through them with. -/
theorem heard_of_transform {accept : Value → Except Fault α} {call : α → HookCall}
    {ps : List (Plugin σ)} {n : Nat} {a : α} {w w' : σ} {r : Except Fault α} {log : List Event}
    (h : transform accept call n ps a w = ⟨r, w', log⟩) {position : Nat} {c : HookCall}
    (member : c ∈ heard position log) : ∃ b, c = call b := by
  obtain ⟨_, _, _, h', -, hheard⟩ := transform_spec accept call ps n a w
  obtain ⟨-, -, rfl⟩ := Outcome.mk.inj (h.symm.trans h')
  obtain ⟨b, hb⟩ := hheard position
  rw [hb] at member
  split at member
  · exact ⟨b, List.mem_singleton.mp member⟩
  · exact absurd member List.not_mem_nil

/-- The first of several plugins hears of a value before any of them has changed it. -/
theorem heard_first {accept : Value → Except Fault α} {call : α → HookCall}
    {p : Plugin σ} {ps : List (Plugin σ)} {n : Nat} {a : α} {w w' : σ} {r : Except Fault α}
    {log : List Event} (h : transform accept call n (p :: ps) a w = ⟨r, w', log⟩) :
    ∃ rest, heard n log = call a :: rest := by
  obtain ⟨b, w₁, rest, hask, -, -⟩ := ask_spec accept n p (call a) a w
  rcases later : transform accept call (n + 1) ps b w₁ with ⟨r', w₂, log'⟩
  rw [transform, Act.bind_apply, hask, Outcome.andThen_ok, later, Act.after_mk] at h
  obtain ⟨-, -, rfl⟩ := Outcome.mk.inj h
  exact ⟨_, by rw [heard_append, heard_hook, if_pos rfl]; rfl⟩

/-- Every plugin sees a point that plugins only watch, once and as it is. -/
theorem observe_spec (call : HookCall) (ps : List (Plugin σ)) (w : σ) :
    ∃ w' log, observe call 0 ps w = ⟨.ok (), w', log⟩ ∧
      ∀ position, heard position log = if position < ps.length then [call] else [] := by
  obtain ⟨⟨⟩, w', log, hobserve, -, hheard⟩ :=
    transform_spec (fun _ => .ok ()) (fun _ => call) ps 0 () w
  refine ⟨w', log, hobserve, fun position => ?_⟩
  obtain ⟨-, hc⟩ := hheard position
  rw [hc]
  simp only [Among, Nat.zero_le, true_and, Nat.zero_add]

/-- Each plugin is asked once about a step, and the step that comes out is the one that is carried out. -/
theorem beforeStep_spec (ps : List (Plugin σ)) (plan : List Step) (index : Nat) (step : Step) (w : σ) :
    ∃ step' w' log, beforeStep ps plan index step w = ⟨.ok step', w', log⟩ ∧
      ∀ position, ∃ c, heard position log =
        if position < ps.length then [.beforeStep plan index c] else [] := by
  obtain ⟨step', w', log, htransform, -, hheard⟩ :=
    transform_spec acceptStep (.beforeStep plan index) ps 0 step w
  refine ⟨step', w', log, htransform, fun position => ?_⟩
  obtain ⟨c, hc⟩ := hheard position
  refine ⟨c, ?_⟩
  rw [hc]
  simp only [Among, Nat.zero_le, true_and, Nat.zero_add]

end Hooks

end Stepwise
