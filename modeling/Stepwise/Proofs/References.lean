import Mathlib.Data.List.Forall2
import Stepwise.Proofs.CallReading

/-!
References among arguments. What an argument is depends on its text alone, which is what remains of its piece when
blanks, a comma and one layer of quotes are taken away: the name of the outputs with decimal digits in brackets is
a reference, and every other text is a literal, letter by letter as it stands. A line feed behind the bracket makes
no difference to a reference; it can stand there in quotes only, since elsewhere it is trimmed away.
-/

namespace Stepwise

namespace Text

/-- A text that is trimmed at its end does not end in a blank. -/
theorem isBlank_of_getLast?_trimEnd {cs : List Char} {c : Char} (last : (trimEnd cs).getLast? = some c) :
    isBlank c = false :=
  trimEnd_eq_self_iff.mp (trimEnd_trimEnd cs) c last

end Text

namespace Call

/-- Taking away quotes takes one quote character at each end, or nothing. -/
theorem unquote_cases (cs : List Char) :
    unquote cs = cs ∨ ∃ q, isQuote q = true ∧ cs = q :: unquote cs ++ [q] := by
  match cs with
  | [] => exact .inl rfl
  | [q] => exact .inl rfl
  | q :: c :: rest =>
    rw [unquote]
    split
    next quoted =>
      simp only [Bool.and_eq_true, beq_iff_eq] at quoted
      obtain ⟨isquote, last⟩ := quoted
      have whole : (c :: rest).dropLast ++ [q] = c :: rest := List.dropLast_append_getLast? q last
      refine .inr ⟨q, isquote, ?_⟩
      rw [List.cons_append, whole]
    · exact .inl rfl

/-- Without its comma, a trimmed piece does not end in a blank either. -/
theorem isBlank_of_getLast?_dropComma {piece : List Char} {c : Char}
    (last : (dropComma (Text.trim piece)).getLast? = some c) : Text.isBlank c = false := by
  rw [dropComma] at last
  split at last
  · exact Text.isBlank_of_getLast?_trimEnd last
  · exact Text.isBlank_of_getLast?_trimEnd last

/-- What a text is read as: a reference if it has the form of one, and a literal if not. -/
inductive Reads : List Char → Argument → Prop
  | reference {digits text : List Char} (form : HasReferenceForm digits text)
      (short : digits.length ≤ Numeral.limit) : Reads text (.reference (Text.numeral digits))
  | literal {text : List Char} (other : ∀ digits, ¬ HasReferenceForm digits text) :
      Reads text (.literal (String.ofList text))

theorem toArgument_eq_ok_iff {text : List Char} {a : Argument} : toArgument text = .ok a ↔ Reads text a := by
  constructor
  · intro read
    unfold toArgument at read
    split at read
    next digits found =>
      by_cases long : Numeral.limit < digits.length
      · rw [Numeral.read, if_pos long] at read
        cases read
      · rw [Numeral.read, if_neg long] at read
        cases read
        exact .reference (referenceDigits?_eq_some_iff.mp found) (Nat.not_lt.mp long)
    next none =>
      cases read
      exact .literal (referenceDigits?_eq_none_iff.mp none)
  · intro reads
    cases reads with
    | @reference digits _ form short =>
      rw [toArgument, referenceDigits?_eq_some_iff.mpr form]
      simp only [Numeral.read, if_neg (Nat.not_lt.mpr short)]
      rfl
    | literal other => rw [toArgument, referenceDigits?_eq_none_iff.mpr other]

/-- Working through a list succeeds with the results for its items. -/
theorem mapM_eq_ok_iff {α β ε : Type} {f : α → Except ε β} {xs : List α} {ys : List β} :
    xs.mapM f = .ok ys ↔ List.Forall₂ (fun x y => f x = .ok y) xs ys := by
  constructor
  · intro read
    induction xs generalizing ys with
    | nil =>
      cases read
      exact .nil
    | cons x xs ih =>
      rw [List.mapM_cons] at read
      cases here : f x with
      | error fault =>
        rw [here] at read
        cases read
      | ok y =>
        rw [here] at read
        cases later : xs.mapM f with
        | error fault =>
          rw [later] at read
          cases read
        | ok rest =>
          rw [later] at read
          cases read
          exact .cons here (ih later)
  · intro related
    induction related with
    | nil => rfl
    | cons here _ ih =>
      rw [List.mapM_cons, here, ih]
      rfl

/-- A reference is written as the name of the outputs with digits in brackets, or so with a line feed behind. -/
theorem hasReferenceForm_iff {digits text : List Char} :
    HasReferenceForm digits text ↔ digits ≠ [] ∧ (∀ c ∈ digits, Text.isDecimal c = true) ∧
      (text = referenceText digits ∨ text = referenceText digits ++ ['\n']) := by
  simp [HasReferenceForm, referenceText]

/-- A line feed behind a reference stands within quotes. -/
theorem quoted_of_line_feed {piece start : List Char} (text : clean piece = start ++ ['\n']) :
    ∃ q, isQuote q = true ∧ dropComma (Text.trim piece) = q :: clean piece ++ [q] := by
  rcases unquote_cases (dropComma (Text.trim piece)) with bare | ⟨q, quoted, eq⟩
  · have last : (dropComma (Text.trim piece)).getLast? = some '\n' := by
      rw [← bare, ← clean, text, List.getLast?_concat]
    have solid := isBlank_of_getLast?_dropComma last
    exact absurd solid (by decide)
  · exact ⟨q, quoted, eq⟩

/-- An argument list is read piece by piece, each piece as its text says: a reference where the text is the name of
the outputs and at least one decimal digit in brackets, with the number that the digits denote, and a literal with
just that text where it is anything else. The one thing that may follow the bracket is a line feed in quotes. -/
theorem arguments_read_iff (s : String) (args : List Argument) :
    (splitArguments s = .ok args ↔
      List.Forall₂ (fun piece a => Reads (clean piece) a) (pieces s.toList) args) ∧
    ∀ piece digits, HasReferenceForm digits (clean piece) → clean piece = referenceText digits ∨
      clean piece = referenceText digits ++ ['\n'] ∧
        ∃ q, isQuote q = true ∧ dropComma (Text.trim piece) = q :: clean piece ++ [q] := by
  constructor
  · rw [splitArguments, arguments, mapM_eq_ok_iff]
    simp only [toArgument_eq_ok_iff]
  · intro piece digits form
    obtain ⟨-, -, whole | followed⟩ := hasReferenceForm_iff.mp form
    · exact .inl whole
    · exact .inr ⟨followed, quoted_of_line_feed followed⟩

/-- A text in quotes that ends in a line feed is taken for a reference, though it is longer than one. -/
theorem line_feed_in_reference :
    ¬ ∀ (s : String) (args : List Argument), splitArguments s = .ok args →
      List.Forall₂ (fun piece a => ∀ n, a = .reference n ↔ ∃ digits, digits ≠ [] ∧
        (∀ c ∈ digits, Text.isDecimal c = true) ∧ clean piece = referenceText digits ∧
          Text.numeral digits = n) (pieces s.toList) args := by
  intro whole
  have read : splitArguments "\"outputList[1]\n\"" = .ok [.reference 1] := by decide
  have one : pieces "\"outputList[1]\n\"".toList = ["\"outputList[1]\n\"".toList] := by decide
  have related := whole _ _ read
  rw [one, List.forall₂_cons] at related
  obtain ⟨digits, -, -, text, -⟩ := (related.1 1).mp rfl
  have last : (clean "\"outputList[1]\n\"".toList).getLast? = some '\n' := by decide
  rw [text, referenceText, List.getLast?_concat] at last
  exact absurd last (by decide)

end Call

end Stepwise
