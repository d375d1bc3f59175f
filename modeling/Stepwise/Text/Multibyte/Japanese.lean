import Stepwise.Text.Grid.Japanese
import Stepwise.Text.Grid.Later
import Stepwise.Text.Multibyte.Places

/-!
Japanese: the standard as vendors and as extended codes write it, and the later standard in two planes.
-/

namespace Stepwise.Text.Multibyte

/-- The bytes of a place in the Japanese standard, two rows sharing a leading byte. -/
def shiftedBytes (place : Nat × Nat) : List UInt8 :=
  let lead := place.1 / 2
  let cell := place.2 + (if place.1 % 2 = 0 then 0 else 94)
  bytes [lead + (if lead < 31 then 0x81 else 0xC1), 0x40 + cell + (if cell < 63 then 0 else 1)]

/-- The place of two bytes in the Japanese standard. -/
def shiftedPlace? (a b : Nat) : Option (Nat × Nat) :=
  let lead? := if 0x81 ≤ a ∧ a < 0xA0 then some (a - 0x81) else if 0xE0 ≤ a ∧ a < 0xFD then some (a - 0xC1) else none
  match lead? with
  | some lead =>
    if 0x40 ≤ b ∧ b < 0xFD ∧ b ≠ 0x7F then
      let cell := b - 0x40 - (if b < 0x7F then 0 else 1)
      some (2 * lead + cell / 94, cell % 94)
    else none
  | none => none

/-- The narrow form of a syllable, by its number from 0xA1 on. -/
def narrowNumber? (c : Char) : Option Nat :=
  if 0xFF61 ≤ c.toNat ∧ c.toNat < 0xFFA0 then some (c.toNat - 0xFF61 + 0xA1) else none

/-- The narrow form with a number from 0xA1 on. -/
def narrow? (n : Nat) : Option Char :=
  if 0xA1 ≤ n ∧ n < 0xE0 then some (Char.ofNat (n - 0xA1 + 0xFF61)) else none

/-- The signs that take the places of a backslash and a tilde on Japanese keyboards. -/
def keyboardSign? (c : Char) : Option Nat :=
  if c = '¥' then some 0x5C else if c = '‾' then some 0x7E else none

/-- The characters of the Japanese standard for which vendors read other forms. -/
def shiftedForms : List (Char × Char) :=
  [('〜', '～'), ('‖', '∥'), ('−', '－'), ('¢', '￠'), ('£', '￡'), ('¬', '￢')]

/-- The bytes of a character in the encoding of Japanese vendors. -/
def shiftedVendorBytes? (c : Char) : Option (List UInt8) :=
  match narrowNumber? c with
  | some n => some (bytes [n])
  | none =>
    let n := c.toNat
    if n = 0x80 then some [0x80]
    else if n = 0xF8F0 then some [0xA0]
    else if 0xF8F1 ≤ n ∧ n < 0xF8F4 then some (bytes [n - 0xF8F1 + 0xFD])
    else if 0xE000 ≤ n ∧ n < 0xE758 then
      some (shiftedBytes (94 + (n - 0xE000) / 94, (n - 0xE000) % 94))
    else
      let plain := ((shiftedForms.find? (·.2 == c)).map (·.1)).getD c
      ((Grid.jis.placeOf? plain).orElse fun _ => Grid.jisAdded.placeOf? c).map shiftedBytes

/-- The character at a place in the encoding of Japanese vendors. -/
def shiftedVendorCharAt? (place : Nat × Nat) : Option Char :=
  if 94 ≤ place.1 ∧ place.1 < 114 then some (Char.ofNat (0xE000 + (place.1 - 94) * 94 + place.2))
  else
    match Grid.jis.charAt? place.1 place.2 with
    | some c => some (((shiftedForms.find? (·.1 == c)).map (·.2)).getD c)
    | none => Grid.jisAdded.charAt? place.1 place.2

/-- The bytes of a character in the extended code for Japanese. -/
def japaneseBytes? (c : Char) : Option (List UInt8) :=
  match narrowNumber? c, Grid.jis.placeOf? c, Grid.jisSupplement.placeOf? c with
  | some n, _, _ => some (bytes [0x8E, n])
  | none, some p, _ => some (bytes [0xA1 + p.1, 0xA1 + p.2])
  | none, none, some p => some (bytes [0x8F, 0xA1 + p.1, 0xA1 + p.2])
  | none, none, none => (keyboardSign? c).map fun n => bytes [n]

/-! ### The later standard -/

/-- The characters that the later standard has in its second edition only. -/
def lateCharacters : List Char := "俱剝𠮟吞噓姸屛幷瘦繫鬜".toList

/-- A character that the second edition has given up, and its place in the second plane. -/
def givenUp : Char × (Nat × Nat) := ('鬝', (92, 26))

/-- The place of a character in the later standard, and whether it is in the second plane; `old` means
the first edition. -/
def laterPlace? (old : Bool) (c : Char) : Option (Bool × (Nat × Nat)) :=
  if old && lateCharacters.contains c then none
  else if old && c == givenUp.1 then some (true, givenUp.2)
  else
    match Grid.jisFirst.placeOf? c, Grid.jisSecond.placeOf? c with
    | some p, _ => some (false, p)
    | none, some p => some (true, p)
    | none, none => (Grid.jis.placeOf? c).map (false, ·)

/-- The place of a pair of characters in the first plane. -/
def laterPairPlace? (c d : Char) : Option (Nat × Nat) :=
  (Grid.jisPairs.find? fun p => p.2.1 == c && p.2.2 == d).map (·.1)

/-- Whether a character may be the first one of a pair. -/
def laterWaits (c : Char) : Bool := Grid.jisPairs.any (·.2.1 == c)

/-- The characters at a place of the later standard. -/
def laterCharsAt? (old second : Bool) (place : Nat × Nat) : Option (List Char) :=
  let one? :=
    if second then
      if old && place == givenUp.2 then some givenUp.1 else Grid.jisSecond.charAt? place.1 place.2
    else
      (Grid.jis.charAt? place.1 place.2).orElse fun _ => Grid.jisFirst.charAt? place.1 place.2
  match one? with
  | some c => if old && lateCharacters.contains c then none else some [c]
  | none =>
    if second then none
    else (Grid.jisPairs.find? (·.1 == place)).map fun p => [p.2.1, p.2.2]

/-- The bytes of a place of the later standard in the extended code. -/
def laterBytes (place : Bool × (Nat × Nat)) : List UInt8 :=
  (if place.1 then [0x8F] else []) ++ highBytes place.2

/-- The bytes of a character in the extended code for the later standard. -/
def laterBytes? (old : Bool) (c : Char) : Option (List UInt8) :=
  match narrowNumber? c, laterPlace? old c with
  | some n, _ => some (bytes [0x8E, n])
  | none, some p => some (laterBytes p)
  | none, none =>
    if old && lateCharacters.contains c then none
    else (Grid.jisSupplement.placeOf? c).map fun p => laterBytes (true, p)

/-- The rows of the second plane that follow the first plane, in order. -/
def secondRows : List Nat := [0, 7, 2, 3, 4, 11, 12, 13, 14] ++ (List.range 17).map (77 + ·)

/-- The row in which a place of the later standard is written where rows share leading bytes. -/
def shiftedRow (place : Bool × (Nat × Nat)) : Nat × Nat :=
  if place.1 then (94 + secondRows.idxOf place.2.1, place.2.2) else place.2

/-- The bytes of a character of the later standard where rows share leading bytes. -/
def laterShiftedBytes? (old : Bool) (c : Char) : Option (List UInt8) :=
  match narrowNumber? c, keyboardSign? c with
  | some n, _ => some (bytes [n])
  | none, some n => some (bytes [n])
  | none, none =>
    if c = '\\' then some (shiftedBytes (0, 31))
    else if c = '~' then some (shiftedBytes (1, 17))
    else if c = '＼' ∨ c = '～' then none
    else if c.toNat < 0x80 then some (bytes [c.toNat])
    else (laterPlace? old c).map fun p => shiftedBytes (shiftedRow p)

/-- The characters of two bytes where rows share leading bytes. -/
def laterShiftedChars? (old : Bool) (place : Nat × Nat) : Option (List Char) :=
  if place = (0, 31) then some ['\\']
  else if place = (1, 17) then some ['~']
  else if place.1 < 94 then laterCharsAt? old false place
  else (secondRows[place.1 - 94]?).bind fun r => laterCharsAt? old true (r, place.2)

end Stepwise.Text.Multibyte
