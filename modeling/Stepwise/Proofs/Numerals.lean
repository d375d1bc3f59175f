import Mathlib.Algebra.Group.Nat.Defs
import Mathlib.Data.List.Basic
import Stepwise.Number.Numeral
import Stepwise.Text.Blank

/-!
Numbers in decimal. Writing a number and reading its digits gives the number back, so that different numbers
are written differently; and no digit is taken for anything else.
-/

namespace Stepwise.Numeral

theorem toString_natCast (n : ℕ) : toString (n : Int) = toString n := rfl

/-- The value of a digit. -/
theorem digitValue?_digitChar {d : ℕ} (h : d < 10) : Text.digitValue? (Nat.digitChar d) = some d := by
  have all : ∀ d : Fin 10, Text.digitValue? (Nat.digitChar d) = some d.val := by decide
  exact all ⟨d, h⟩

/-- Reading the digits of a number gives the number back. -/
theorem numeral_toDigits (n : ℕ) : Text.numeral (Nat.toDigits 10 n) = n := by
  induction n using Nat.strongRecOn with
  | ind n ih =>
    rcases Nat.lt_or_ge n 10 with small | large
    · rw [Nat.toDigits_of_lt_base small]
      simp [Text.numeral, digitValue?_digitChar small]
    · have shorter := ih (n / 10) (by omega)
      rw [Nat.toDigits_of_base_le (by decide) large, Text.numeral, List.foldl_append]
      rw [Text.numeral] at shorter
      simp only [shorter, List.foldl_cons, List.foldl_nil,
        digitValue?_digitChar (Nat.mod_lt n (by decide)), Option.getD_some]
      omega

theorem digitValue?_lt {c : Char} {d : ℕ} (h : Text.digitValue? c = some d) : d < 10 := by
  rw [Text.digitValue?, Option.map_eq_some_iff] at h
  obtain ⟨first, found, rfl⟩ := h
  have range := List.find?_some found
  simp only [Bool.and_eq_true, decide_eq_true_eq] at range
  omega

/-- So many digits denote a number that needs no more. -/
theorem numeral_lt (cs : List Char) : Text.numeral cs < 10 ^ cs.length := by
  have step : ∀ c, (Text.digitValue? c).getD 0 < 10 := by
    intro c
    cases value : Text.digitValue? c with
    | none => decide
    | some d => exact digitValue?_lt value
  -- By induction on the digits. The digits that were read before are a number of which only the size matters.
  have read : ∀ n, cs.foldl (fun n c => 10 * n + (Text.digitValue? c).getD 0) n < (n + 1) * 10 ^ cs.length := by
    induction cs with
    | nil =>
      intro n
      simp
    | cons c cs ih =>
      intro n
      have digit := step c
      calc (c :: cs).foldl (fun n c => 10 * n + (Text.digitValue? c).getD 0) n
          < (10 * n + (Text.digitValue? c).getD 0 + 1) * 10 ^ cs.length := ih _
        _ ≤ (10 * (n + 1)) * 10 ^ cs.length := Nat.mul_le_mul_right _ (by omega)
        _ = (n + 1) * 10 ^ (c :: cs).length := by
          rw [List.length_cons, Nat.pow_succ', Nat.mul_comm 10, Nat.mul_assoc]
  have whole := read 0
  rwa [Nat.zero_add, Nat.one_mul] at whole

/-- Different numbers are written differently. -/
theorem toDigits_inj {m n : ℕ} : Nat.toDigits 10 m = Nat.toDigits 10 n ↔ m = n := by
  refine ⟨fun h => ?_, fun h => by rw [h]⟩
  rw [← numeral_toDigits m, h, numeral_toDigits]

/-- A number is read unless it has too many digits. -/
theorem read_toDigits {n : ℕ} (h : (Nat.toDigits 10 n).length ≤ limit) :
    read (Nat.toDigits 10 n) = .ok n := by
  rw [read, if_neg (Nat.not_lt.mpr h), numeral_toDigits]

theorem isDigit_of_mem {n : ℕ} {c : Char} (h : c ∈ Nat.toDigits 10 n) : c.isDigit = true :=
  Nat.isDigit_of_mem_toDigits (by decide) (by decide) h

theorem exists_toDigits_eq_cons (n : ℕ) :
    ∃ c digits, Nat.toDigits 10 n = c :: digits ∧ c.isDigit = true := by
  have some : Nat.toDigits 10 n ≠ [] := Nat.toDigits_ne_nil
  obtain ⟨c, digits, eq⟩ := List.exists_cons_of_ne_nil some
  exact ⟨c, digits, eq, isDigit_of_mem (by rw [eq]; exact List.mem_cons_self)⟩

/-- No number but zero begins with the digit zero. -/
theorem head?_toDigits {n : ℕ} (h : 0 < n) : (Nat.toDigits 10 n).head? ≠ some '0' := by
  induction n using Nat.strongRecOn with
  | ind n ih =>
    rcases Nat.lt_or_ge n 10 with small | large
    · rw [Nat.toDigits_of_lt_base small, List.head?_cons]
      simp only [ne_eq, Option.some.injEq, Nat.digitChar_eq_zero]
      omega
    · have shorter := ih (n / 10) (by omega) (by omega)
      have some : Nat.toDigits 10 (n / 10) ≠ [] := Nat.toDigits_ne_nil
      rw [Nat.toDigits_of_base_le (by decide) large, List.head?_append_of_ne_nil _ some]
      exact shorter

/-- A number has no other characters than digits. -/
theorem notMem_toDigits {c : Char} (h : c.isDigit = false) (n : ℕ) : c ∉ Nat.toDigits 10 n := by
  intro member
  rw [isDigit_of_mem member] at h
  cases h

theorem isDecimal_of_isDigit {c : Char} (h : c.isDigit = true) : Text.isDecimal c = true := by
  have range := Char.isDigit_iff_toNat.mp h
  simp only [Char.reduceToNat] at range
  rw [Text.isDecimal, Text.digitValue?, Option.isSome_map, List.find?_isSome]
  refine ⟨0x30, by decide, ?_⟩
  simp
  omega

theorem isBlank_of_isDigit {c : Char} (h : c.isDigit = true) : Text.isBlank c = false := by
  have range := Char.isDigit_iff_toNat.mp h
  simp only [Char.reduceToNat] at range
  simp [Text.isBlank]
  omega

end Stepwise.Numeral
