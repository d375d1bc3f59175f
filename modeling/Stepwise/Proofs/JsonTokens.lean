import Mathlib.Data.List.Basic
import Stepwise.Json.Printer
import Stepwise.Json.Reader
import Stepwise.Proofs.Numerals

/-!
Reading the strings and integers of a JSON text. A string is read back whatever its characters are, since a
character is written as itself or as an escape that spells its code; an integer is read back if it is not too
long and what follows it does not go on with the number.
-/

namespace Stepwise.Json

section

variable (start : ℕ) {c : Char} {rest : List Char}

theorem stringUnits_plain (quote : c ≠ '"') (backslash : c ≠ '\\') (visible : 0x20 ≤ c.toNat) :
    stringUnits start (c :: rest) = consUnit c.toNat (stringUnits start rest) := by
  -- All other patterns begin with the quote or with the backslash.
  rw [stringUnits, if_neg (Nat.not_lt.mpr visible)]
  · exact quote
  · exact fun escape => absurd escape backslash
  · exact fun _ _ _ _ _ escape => absurd escape backslash
  · exact fun _ _ escape => absurd escape backslash

theorem stringUnits_short {letter : Char} (escape : shortEscape? letter = some c) :
    stringUnits start ('\\' :: letter :: rest) = consUnit c.toNat (stringUnits start rest) := by
  have other : letter ≠ 'u' := by
    rintro rfl
    cases escape
  simp [stringUnits, escape, other]

theorem hexValue?_digitChar {d : ℕ} (h : d < 16) : hexValue? (Nat.digitChar d) = some d := by
  have all : ∀ d : Fin 16, hexValue? (Nat.digitChar d) = some d.val := by decide
  exact all ⟨d, h⟩

theorem stringUnits_code {n : ℕ} (h : n < 0x10000) (more : rest ≠ []) :
    stringUnits start ('\\' :: 'u' :: Text.hexDigits 4 n ++ rest) = consUnit n (stringUnits start rest) := by
  have digits : hex4? (Nat.digitChar (n / 16 / 16 / 16 % 16)) (Nat.digitChar (n / 16 / 16 % 16))
      (Nat.digitChar (n / 16 % 16)) (Nat.digitChar (n % 16)) = some n := by
    have bound : ∀ m, m % 16 < 16 := fun m => Nat.mod_lt m (by decide)
    simp only [hex4?, hexValue?_digitChar (bound _), Option.some.injEq]
    omega
  simp [Text.hexDigits, stringUnits, digits, more]

/-- The code unit of a character is read from what is written for it. -/
theorem stringUnits_escapeChar (c : Char) (more : rest ≠ []) :
    stringUnits start (escapeChar c ++ rest) = consUnit c.toNat (stringUnits start rest) := by
  unfold escapeChar
  split
  · next h => exact stringUnits_short start (by rw [h]; rfl)
  split
  · next h => exact stringUnits_short start (by rw [h]; rfl)
  split
  · next h => exact stringUnits_short start (by rw [h]; rfl)
  split
  · next h => exact stringUnits_short start (by rw [h]; rfl)
  split
  · next h => exact stringUnits_short start (by rw [h]; rfl)
  split
  · next h =>
    rw [h]
    exact stringUnits_short start (c := Char.ofNat 0x0C) rfl
  split
  · next h =>
    rw [h]
    exact stringUnits_short start (c := Char.ofNat 0x08) rfl
  split
  · next h => exact stringUnits_code start (by omega) more
  · next quote backslash _ _ _ _ _ visible =>
    exact stringUnits_plain start quote backslash (by omega)

theorem stringUnits_string (cs : List Char) (rest : List Char) :
    stringUnits start (cs.flatMap escapeChar ++ '"' :: rest) = .ok (cs.map Char.toNat, rest) := by
  induction cs with
  | nil => rfl
  | cons c cs ih =>
    rw [List.flatMap_cons, List.append_assoc, stringUnits_escapeChar start c (by simp), ih]
    rfl

end

/-- A character stands for itself, and is no half of a pair. -/
theorem single_toNat (c : Char) : single c.toNat = c := by
  have valid : c.toNat < 0xD800 ∨ 0xDFFF < c.toNat ∧ c.toNat < 0x110000 := c.valid
  rw [single, if_neg (by omega), Char.ofNat_toNat]

theorem paired?_toNat (c : Char) (n : ℕ) : paired? c.toNat n = none := by
  have valid : c.toNat < 0xD800 ∨ 0xDFFF < c.toNat ∧ c.toNat < 0x110000 := c.valid
  rw [paired?, if_neg (by omega)]

theorem joinUnits_map_toNat (cs : List Char) : joinUnits (cs.map Char.toNat) = cs := by
  induction cs with
  | nil => rfl
  | cons c cs ih =>
    cases cs with
    | nil => simp [joinUnits, single_toNat]
    | cons d cs =>
      simp only [List.map_cons] at ih ⊢
      rw [joinUnits, paired?_toNat]
      simp [ih, single_toNat]

/-- A string is read back. -/
theorem stringBody_string (s : String) (rest : List Char) :
    stringBody (s.toList.flatMap escapeChar ++ '"' :: rest) = .ok (s.toList, rest) := by
  rw [stringBody, stringUnits_string]
  simp [Except.map, joinUnits_map_toNat]

/-- What follows a number so that it does not go on. -/
def EndsNumber (rest : List Char) : Prop :=
  ∀ c ∈ rest.head?, c.isDigit = false ∧ c ≠ '.' ∧ c ≠ 'e' ∧ c ≠ 'E'

section

variable {rest : List Char}

theorem digitRun_append {digits : List Char} (written : ∀ c ∈ digits, c.isDigit = true)
    (whole : ∀ c ∈ rest.head?, c.isDigit = false) : digitRun (digits ++ rest) = (digits, rest) := by
  rw [digitRun, List.takeWhile_append_of_pos written, List.dropWhile_append_of_pos written]
  cases rest with
  | nil => simp
  | cons c rest => simp [whole c rfl]

/-- Digits that do not begin with zero are taken in up to their end. -/
theorem wholeDigits_append {c : Char} {digits : List Char} (written : ∀ d ∈ c :: digits, d.isDigit = true)
    (first : c ≠ '0') (whole : ∀ c ∈ rest.head?, c.isDigit = false) :
    wholeDigits (c :: digits ++ rest) = some (c :: digits, rest) := by
  have run := digitRun_append written whole
  rw [List.cons_append] at run ⊢
  simp [wholeDigits, first, run]

theorem wholeDigits_toDigits (n : ℕ) (ended : EndsNumber rest) :
    wholeDigits (Nat.toDigits 10 n ++ rest) = some (Nat.toDigits 10 n, rest) := by
  rcases Nat.eq_zero_or_pos n with rfl | positive
  · rfl
  · have first := Numeral.head?_toDigits positive
    have written : ∀ c ∈ Nat.toDigits 10 n, c.isDigit = true := fun c => Numeral.isDigit_of_mem
    obtain ⟨c, digits, eq, -⟩ := Numeral.exists_toDigits_eq_cons n
    rw [eq] at first written ⊢
    exact wholeDigits_append written (by simpa using first) fun c next => (ended c next).1

theorem fraction_of_ended (ended : EndsNumber rest) : fraction rest = none := by
  cases rest with
  | nil => rfl
  | cons c rest =>
    have other := (ended c rfl).2.1
    simp [fraction, other]

theorem exponent_of_ended (ended : EndsNumber rest) : exponent rest = none := by
  cases rest with
  | nil => rfl
  | cons c rest =>
    obtain ⟨-, -, lower, upper⟩ := ended c rfl
    simp [exponent, lower, upper]

theorem unsigned_toDigits (start : ℕ) (negative : Bool) {n : ℕ}
    (short : (Nat.toDigits 10 n).length ≤ Numeral.limit) (ended : EndsNumber rest) :
    unsigned start negative (Nat.toDigits 10 n ++ rest) =
      .ok (.int (if negative then -n else n), rest) := by
  simp [unsigned, wholeDigits_toDigits n ended, fraction_of_ended ended, exponent_of_ended ended,
    Numeral.read_toDigits short]

theorem ne_of_isDigit {c d : Char} (digit : c.isDigit = true) (other : d.isDigit = false) : d ≠ c := by
  rintro rfl
  rw [digit] at other
  cases other

/-- No word begins like a number. -/
theorem words_digit {c : Char} (digit : c.isDigit = true) (rest : List Char) :
    (words.findSome? fun w => (after? w.1 (c :: rest)).map fun rest => (w.2, rest)) = none := by
  have other : ∀ {d : Char}, d.isDigit = false → d ≠ c := ne_of_isDigit digit
  simp [words, after?, @other 'n' rfl, @other 't' rfl, @other 'f' rfl, @other 'N' rfl, @other 'I' rfl,
    @other '-' rfl]

theorem words_minus {c : Char} (digit : c.isDigit = true) (rest : List Char) :
    (words.findSome? fun w => (after? w.1 ('-' :: c :: rest)).map fun rest => (w.2, rest)) = none := by
  have other : 'I' ≠ c := ne_of_isDigit digit (by decide)
  simp [words, after?, other]

/-- An integer is read back. -/
theorem atom_integer {i : Int} (short : (Nat.toDigits 10 i.natAbs).length ≤ Numeral.limit)
    (ended : EndsNumber rest) : atom (integer i ++ rest) = .ok (.int i, rest) := by
  obtain ⟨c, digits, eq, digit⟩ := Numeral.exists_toDigits_eq_cons i.natAbs
  have number : ∀ start negative, unsigned start negative (c :: (digits ++ rest)) =
      .ok (.int (if negative then -i.natAbs else i.natAbs), rest) := by
    intro start negative
    rw [← List.cons_append, ← eq, unsigned_toDigits start negative short ended]
  by_cases negative : i < 0
  · have back : -(i.natAbs : Int) = i := by omega
    rw [integer, if_pos negative, eq, List.cons_append, List.cons_append, atom, words_minus digit]
    simp only [number, if_true, back]
  · have minus : c ≠ '-' := Ne.symm (ne_of_isDigit digit (by decide))
    rw [integer, if_neg negative, eq, List.cons_append, atom, words_digit digit]
    · rw [number, if_neg Bool.false_ne_true, Int.natAbs_of_nonneg (Int.not_lt.mp negative)]
    · intro tail signed
      exact minus (List.cons.inj signed).1

end

end Stepwise.Json
