import Stepwise.Text.Grid.Korean
import Stepwise.Text.Multibyte.Places

/-!
Korean: the standard, syllables that are spelled letter by letter, and codes for all syllables.
-/

namespace Stepwise.Text.Multibyte

/-- The trailing bytes of the letters at the beginnings of syllables. -/
def initials : List Nat :=
  [0xA1, 0xA2, 0xA4, 0xA7, 0xA8, 0xA9, 0xB1, 0xB2, 0xB3, 0xB5, 0xB6, 0xB7, 0xB8, 0xB9, 0xBA, 0xBB, 0xBC,
    0xBD, 0xBE]

/-- The trailing bytes of the letters at the ends of syllables; the first one is for none. -/
def finals : List Nat :=
  [0xD4, 0xA1, 0xA2, 0xA3, 0xA4, 0xA5, 0xA6, 0xA7, 0xA9, 0xAA, 0xAB, 0xAC, 0xAD, 0xAE, 0xAF, 0xB0, 0xB1,
    0xB2, 0xB4, 0xB5, 0xB6, 0xB7, 0xB8, 0xBA, 0xBB, 0xBC, 0xBD, 0xBE]

/-- The index of a syllable. -/
def syllable? (c : Char) : Option Nat :=
  if 0xAC00 ≤ c.toNat ∧ c.toNat < 0xD7A4 then some (c.toNat - 0xAC00) else none

/-- A syllable letter by letter. -/
def lettersOf (i : Nat) : List UInt8 :=
  bytes [0xA4, 0xD4, 0xA4, initials.getD (i / 588) 0, 0xA4, 0xBF + i / 28 % 21, 0xA4, finals.getD (i % 28) 0]

/-- The syllable of letters. -/
def ofLetters? : List Nat → Option Char
  | 0xA4 :: a :: 0xA4 :: b :: 0xA4 :: c :: _ =>
    match initials.findIdx? (· == a), finals.findIdx? (· == c) with
    | some i, some k =>
      if 0xBF ≤ b ∧ b < 0xD4 then some (Char.ofNat (0xAC00 + i * 588 + (b - 0xBF) * 28 + k)) else none
    | _, _ => none
  | _ => none

/-- The syllables of the Korean standard, in order. -/
def syllables : List Nat := ((Grid.ks.characters.filter fun c => (syllable? c).isSome).map Char.toNat).mergeSort

/-- The trailing bytes that vendors use outside the standard. -/
def outerTrails (most : Nat) : List Nat :=
  (List.range 256).filter fun b =>
    (0x41 ≤ b && b ≤ 0x5A) || (0x61 ≤ b && b ≤ 0x7A) || (0x81 ≤ b && b ≤ most)

/-- The bytes that vendors give to the syllable outside the standard with an index. -/
def outerBytes (i : Nat) : List UInt8 :=
  let early := (outerTrails 0xFE).length
  let late := (outerTrails 0xA0).length
  if i < 32 * early then bytes [0x81 + i / early, (outerTrails 0xFE).getD (i % early) 0]
  else
    let i := i - 32 * early
    bytes [0xA1 + i / late, (outerTrails 0xA0).getD (i % late) 0]

/-- The index of the syllable outside the standard to which vendors give two bytes. -/
def outerIndex? (a b : Nat) : Option Nat :=
  let early := (outerTrails 0xFE).length
  let late := (outerTrails 0xA0).length
  let index? :=
    if a < 0xA1 then ((outerTrails 0xFE).findIdx? (· == b)).map ((a - 0x81) * early + ·)
    else ((outerTrails 0xA0).findIdx? (· == b)).map (32 * early + (a - 0xA1) * late + ·)
  index?.filter (· < 8822)

/-! ### Syllables by fields of five bits -/

/-- The fields of the vowels, in order. -/
def vowelFields : List Nat :=
  [3, 4, 5, 6, 7, 10, 11, 12, 13, 14, 15, 18, 19, 20, 21, 22, 23, 26, 27, 28, 29]

/-- The field of a letter at the end of a syllable; that of none comes first. -/
def finalField (k : Nat) : Nat := if k ≤ 16 then k + 1 else k + 2

/-- The bytes of three fields: those of no letter are 1, 2 and 1. -/
def packed (initial vowel final : Nat) : List UInt8 :=
  let n := 0x8000 + initial * 1024 + vowel * 32 + final
  bytes [n / 256, n % 256]

/-- The letter of a trailing byte of the standard. -/
def letterOf (trail : Nat) : Char := Char.ofNat (0x3131 + (trail - 0xA1))

/-- The bytes of a letter that stands alone. -/
def letterBytes? (c : Char) : Option (List UInt8) :=
  if 0x3131 ≤ c.toNat ∧ c.toNat ≤ 0x3163 then
    let trail := c.toNat - 0x3131 + 0xA1
    match initials.findIdx? (· == trail), (finals.drop 1).findIdx? (· == trail) with
    | some i, _ => some (packed (i + 2) 2 1)
    | none, some k => some (packed 1 2 (finalField (k + 1)))
    | none, none => (vowelFields[c.toNat - 0x314F]?).map fun v => packed 1 v 1
  else none

/-- The bytes of a character of the standard in the rows behind the syllables. -/
def behindBytes? (place : Nat × Nat) : Option (List UInt8) :=
  if place.1 < 12 ∨ (41 ≤ place.1 ∧ place.1 < 93) then
    let half := place.1 + (if place.1 < 41 then 0x1B2 else 0x197)
    let cell := place.2 + (if half % 2 = 1 then 94 else 0)
    some (bytes [half / 2, cell + (if cell < 0x4E then 0x31 else 0x43)])
  else none

/-- The bytes of a character by fields. -/
def fieldBytes? (c : Char) : Option (List UInt8) :=
  match syllable? c, letterBytes? c with
  | some i, _ => some (packed (i / 588 + 2) (vowelFields.getD (i / 28 % 21) 0) (finalField (i % 28)))
  | none, some bs => some bs
  | none, none => (Grid.ks.placeOf? c).bind behindBytes?

/-- The character of two bytes whose fields are letters. -/
def fieldChar? (a b : Nat) : Option Char :=
  let i := a / 4 % 32
  let v := a % 4 * 8 + b / 32
  let f := b % 32
  let vowel? := vowelFields.findIdx? (· == v)
  let final? := (List.range 28).find? fun k => finalField k == f
  match final? with
  | none => none
  | some k =>
    if 2 ≤ i ∧ i < 21 then
      match vowel? with
      | some w => some (Char.ofNat (0xAC00 + (i - 2) * 588 + w * 28 + k))
      | none => if v = 2 ∧ k = 0 then some (letterOf (initials.getD (i - 2) 0xA1)) else none
    else if i = 1 then
      match vowel? with
      | some w => if k = 0 then some (Char.ofNat (0x314F + w)) else none
      | none =>
        if v ≠ 2 then none
        else if k = 0 then some '\u3000'
        else some (letterOf (finals.getD k 0xA1))
    else none

/-- The character of two bytes in the rows behind the syllables. -/
def behindChar? (a b : Nat) : Option Char :=
  if a = 0xDF ∨ 0xF9 < a ∨ b < 0x31 ∨ (0x7F ≤ b ∧ b < 0x91) ∨ b = 0xFF ∨
      (a = 0xDA ∧ 0xA1 ≤ b ∧ b ≤ 0xD3) ∨ a < 0xD9 then none
  else
    let row := if a < 0xE0 then 2 * (a - 0xD9) else 2 * a - 0x197
    let cell := if b < 0x91 then b - 0x31 else b - 0x43
    Grid.ks.charAt? (row + cell / 94) (cell % 94)

/-- The character of two bytes by fields. -/
def fieldsChar? (a b : Nat) : Option Char := if a < 0xD8 then fieldChar? a b else behindChar? a b

end Stepwise.Text.Multibyte
