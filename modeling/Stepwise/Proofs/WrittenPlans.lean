import Stepwise.Proofs.Actions
import Stepwise.Proofs.JsonReading

/-!
Reading back a plan that was written. A reply is the JSON text of a plan, on one line or over several, with any
blanks around it. The text begins and ends with a bracket, so no fence is taken from it, whatever fences its
steps hold; it is read as the list of items that were written, and each item describes the step it came from.
-/

namespace Stepwise

theorem StepKind.ofNumber_number (k : StepKind) : ofNumber k.number = k := by
  cases k <;> rfl

namespace Step

/-- The wire form of a step describes that step. -/
theorem ofItem_toWire (s : Step) : ofItem s.toWire = s := by
  cases s with
  | mk kind content description =>
    simp [toWire, ofItem, ofMembers, kindMember, Value.lookup, StepKind.ofValue, StepKind.ofNumber_number,
      contentText]

theorem readable_toWire (s : Step) : Json.Readable s.toWire := by
  have short : (Nat.toDigits 10 s.kind.number).length ≤ Numeral.limit := by
    cases s.kind <;> decide
  have names : ["type", "content", "description"].Nodup := by decide
  exact ⟨names, short, trivial, trivial, trivial⟩

theorem nesting_toWire (s : Step) : Json.nesting s.toWire = 1 := rfl

end Step

namespace Plan

theorem ofItems_toWire (steps : List Step) : ofItems (steps.map Step.toWire) = steps := by
  rw [ofItems, List.map_map]
  exact List.map_id'' Step.ofItem_toWire steps

theorem readable_toWire (steps : List Step) : Json.Readable (toWire steps) := by
  induction steps with
  | nil => trivial
  | cons s steps ih => exact ⟨s.readable_toWire, ih⟩

theorem nesting_toWire_le (steps : List Step) : Json.nesting (toWire steps) ≤ 2 := by
  induction steps with
  | nil => decide
  | cons s steps ih =>
    simp only [toWire, List.map_cons, Json.nesting, Json.nestingItems, s.nesting_toWire] at ih ⊢
    omega

end Plan

/-- A list is written between brackets. -/
theorem Json.exists_written_list (l : Layout) (level : ℕ) (vs : List Value) :
    ∃ body, written l level (.list vs) = '[' :: body ++ [']'] := by
  cases vs with
  | nil => exact ⟨[], rfl⟩
  | cons v vs =>
    rw [written]
    exact ⟨l.opening level ++ writtenItems l (level + 1) (v :: vs) ++ l.closing level, by simp⟩

namespace Plan

/-- No fence is taken from a list that was written. -/
theorem strip_written (l : Json.Layout) (steps : List Step) :
    Fence.strip (Json.written l 0 (toWire steps)) = Json.written l 0 (toWire steps) := by
  obtain ⟨body, text⟩ := Json.exists_written_list l 0 (steps.map Step.toWire)
  rw [toWire, text]
  refine Fence.strip_eq_self ?_ ?_
  · rintro c ⟨⟩
    decide
  · rintro c last
    rw [List.getLast?_concat] at last
    cases last
    decide

/-- A reply that reads as a plan in wire form is that plan. -/
theorem ofReply_of_read {reply : String} {steps : List Step}
    (h : Json.read (Fence.strip reply.toList) = .ok (toWire steps)) : ofReply reply = .ok steps := by
  rw [toWire] at h
  simp only [ofReply, h, ofItems_toWire]

section

variable (steps : List Step) {before after : String} (blank : Text.isBlankText before = true)
  (blank' : Text.isBlankText after = true)

include blank blank'

theorem ofReply_of_written {l : Json.Layout} (spaced : l.Spaced) :
    ofReply (before ++ String.ofList (Json.written l 0 (toWire steps)) ++ after) = .ok steps := by
  have shallow : Json.nesting (toWire steps) ≤ Json.depthLimit :=
    Nat.le_trans (nesting_toWire_le steps) (by decide)
  have whole := Json.read_written (readable_toWire steps) shallow spaced 0
  rw [← strip_written, ← Fence.strip_append blank blank'] at whole
  exact ofReply_of_read (by simpa using whole)

theorem ofReply_print : ofReply (before ++ Json.print (toWire steps) ++ after) = .ok steps := by
  rw [Json.print, ← Json.written_flat 0]
  exact ofReply_of_written steps blank blank' Json.Layout.spaced_flat

theorem ofReply_printIndented : ofReply (before ++ Json.printIndented (toWire steps) ++ after) = .ok steps := by
  rw [Json.printIndented, ← Json.written_indented 0]
  exact ofReply_of_written steps blank blank' Json.Layout.spaced_indented

end

/-- What is shown of a plan is its text over several lines. -/
theorem eq_of_shown {σ : Type} {wanted : Bool} {steps : List Step} {world : σ} {text : String}
    (shown : Deed.show .info text ∈ ((Plugin.planEcho wanted).answer (.afterParse steps) world).log) :
    text = Json.printIndented (toWire steps) := by
  simp only [Plugin.answer, Plugin.planEcho, Option.getD_some] at shown
  split at shown
  · simpa using shown
  · cases shown

/-- A plan is read back from its text, on one line or over several as it is shown before it is executed,
whatever blanks stand around it. -/
theorem ofReply_written (steps : List Step) {before after : String} (blank : Text.isBlankText before = true)
    (blank' : Text.isBlankText after = true) :
    ofReply (before ++ Json.print (toWire steps) ++ after) = .ok steps ∧
      ofReply (before ++ Json.printIndented (toWire steps) ++ after) = .ok steps ∧
      ∀ (σ : Type) (world : σ) (wanted : Bool) (text : String),
        Deed.show .info text ∈ ((Plugin.planEcho wanted).answer (.afterParse steps) world).log →
          ofReply (before ++ text ++ after) = .ok steps := by
  refine ⟨ofReply_print steps blank blank', ofReply_printIndented steps blank blank', ?_⟩
  intro σ world wanted text shown
  rw [eq_of_shown shown]
  exact ofReply_printIndented steps blank blank'

theorem ofReply_written_fenced :
    Text.isBlankText "\n\t" = true ∧ Text.isBlankText "\u3000 " = true ∧
      ofReply ("\n\t" ++
        Json.print (toWire [⟨.code, "```json\n[\"\\\"]\n```", "\x01]"⟩, ⟨.recurse, "", "\u3000"⟩]) ++ "\u3000 ") =
        .ok [⟨.code, "```json\n[\"\\\"]\n```", "\x01]"⟩, ⟨.recurse, "", "\u3000"⟩] ∧
      ofReply ("\n\t" ++ Json.printIndented (toWire [⟨.answer, "\x60\x60\x60", ""⟩]) ++ "\u3000 ") =
        .ok [⟨.answer, "\x60\x60\x60", ""⟩] :=
  ⟨by decide, by decide, (ofReply_written _ (by decide) (by decide)).1,
    (ofReply_written _ (by decide) (by decide)).2.1⟩

end Plan

end Stepwise
