import Stepwise.Text.Grid.Simplified
import Stepwise.Text.Multibyte.Places

/-!
Simplified Chinese: the national standard, the extended one and the full one, which has codes of four bytes
for all characters that have none of two.
-/

namespace Stepwise.Text.Multibyte

/-- The bytes of a place in the extended standard. -/
def guobiaoBytes (place : Nat × Nat) : List UInt8 :=
  bytes [0x81 + place.1, 0x40 + place.2 + (if place.2 < 63 then 0 else 1)]

/-- The place of two bytes in the extended standard. -/
def guobiaoPlace? (a b : Nat) : Option (Nat × Nat) :=
  if 0x81 ≤ a ∧ a < 0xFF ∧ 0x40 ≤ b ∧ b < 0xFF ∧ b ≠ 0x7F then
    some (a - 0x81, b - 0x40 - (if b < 0x7F then 0 else 1))
  else none

/-- Whether a place of the extended standard belongs to the standard itself. -/
def isStandard (place : Nat × Nat) : Bool :=
  let (r, c) := place
  32 ≤ r && r < 119 && 96 ≤ c && !(r == 33 && c < 106) && !(r == 37 && 159 ≤ c && c < 181) &&
    !(r == 39 && 122 ≤ c && c < 128)

/-- The characters for which the standard has other forms than the extended one, at their places. -/
def guobiaoForms : List (Char × Char × (Nat × Nat)) :=
  [('・', '·', (32, 99)), ('―', '—', (32, 105))]

/-- The place of a character in the standard. -/
def standardPlace? (c : Char) : Option (Nat × Nat) :=
  match guobiaoForms.find? (·.1 == c) with
  | some f => some f.2.2
  | none =>
    if guobiaoForms.any (·.2.1 == c) then none else (Grid.guobiao.placeOf? c).filter isStandard

/-- The character at a place in the standard. -/
def standardCharAt? (place : Nat × Nat) : Option Char :=
  match guobiaoForms.find? (·.2.2 == place) with
  | some f => some f.1
  | none => if isStandard place then Grid.guobiao.charAt? place.1 place.2 else none

/-- The number for private use that a place in an area for users stands for. -/
def userNumber? (place : Nat × Nat) : Option Nat :=
  let (r, c) := place
  if 41 ≤ r ∧ r < 47 ∧ 96 ≤ c then some (0xE000 + (r - 41) * 94 + (c - 96))
  else if 119 ≤ r ∧ r < 126 ∧ 96 ≤ c then some (0xE234 + (r - 119) * 94 + (c - 96))
  else if 32 ≤ r ∧ r < 39 ∧ c < 96 then some (0xE4C6 + (r - 32) * 96 + c)
  else none

/-- The place in an area for users of a number for private use. -/
def userPlace? (n : Nat) : Option (Nat × Nat) :=
  if n < 0xE000 then none
  else if n < 0xE234 then some (41 + (n - 0xE000) / 94, 96 + (n - 0xE000) % 94)
  else if n < 0xE4C6 then some (119 + (n - 0xE234) / 94, 96 + (n - 0xE234) % 94)
  else if n < 0xE766 then some (32 + (n - 0xE4C6) / 96, (n - 0xE4C6) % 96)
  else none

/-- The free places of the extended standard outside the areas for users. -/
def freePlaces : List (Nat × Nat) :=
  (List.range 126).flatMap fun r =>
    let cs := Grid.guobiao.row r
    ((List.range 190).filter fun c =>
      !((cs[c]?).any Grid.isTaken) && (userNumber? (r, c)).isNone).map (r, ·)

/-- The number for private use of the first free place. -/
def firstFree : Nat := 0xE766

/-- The place of a character in the full standard. -/
def fullPlace? (c : Char) : Option (Nat × Nat) :=
  (Grid.guobiao.placeOf? c).orElse fun _ => (Grid.guobiaoAdded.placeOf? c).orElse fun _ =>
    (userPlace? c.toNat).orElse fun _ =>
      if firstFree ≤ c.toNat ∧ c.toNat < 0xF900 then
        (freePlaces[c.toNat - firstFree]?).filter fun p => (Grid.guobiaoAdded.charAt? p.1 p.2).isNone
      else none

/-- The character at a place in the full standard. -/
def fullCharAt? (place : Nat × Nat) : Option Char :=
  (Grid.guobiao.charAt? place.1 place.2).orElse fun _ =>
    (Grid.guobiaoAdded.charAt? place.1 place.2).orElse fun _ =>
      ((userNumber? place).orElse fun _ =>
        (freePlaces.findIdx? (· == place)).map (firstFree + ·)).map Char.ofNat

/-- The numbers of characters with two bytes in the full standard, and those of halves of pairs, in
order. -/
def fullTaken : List Nat :=
  let listed := (Grid.guobiao.characters ++ Grid.guobiaoAdded.characters).map Char.toNat
  let halves := (List.range 0x800).map (0xD800 + ·)
  let users := (List.range 0x766).map (0xE000 + ·)
  let spare := (List.range freePlaces.length).filterMap fun i =>
    match freePlaces[i]? with
    | some p => if (Grid.guobiaoAdded.charAt? p.1 p.2).isNone then some (firstFree + i) else none
    | none => none
  (listed ++ halves ++ users ++ spare).mergeSort

/-- Four bytes for a number. -/
def fourBytes (n : Nat) : List UInt8 :=
  bytes [0x81 + n / 12600, 0x30 + n / 1260 % 10, 0x81 + n / 10 % 126, 0x30 + n % 10]

/-- The bytes of a character in the full standard. -/
def fullBytes (c : Char) : List UInt8 :=
  if 0x10000 ≤ c.toNat then fourBytes (189000 + (c.toNat - 0x10000))
  else
    match fullPlace? c with
    | some p => guobiaoBytes p
    | none => fourBytes (missingBelow fullTaken 0x80 c.toNat)

/-- The character of four bytes in the full standard. -/
def fourChar? (a b c d : Nat) : Option Char :=
  if 0x81 ≤ a ∧ a < 0xFF ∧ 0x30 ≤ b ∧ b < 0x3A ∧ 0x81 ≤ c ∧ c < 0xFF ∧ 0x30 ≤ d ∧ d < 0x3A then
    let n := (a - 0x81) * 12600 + (b - 0x30) * 1260 + (c - 0x81) * 10 + (d - 0x30)
    if n < 39420 then some (Char.ofNat (missingAt fullTaken 0x80 n))
    else if 189000 ≤ n ∧ n < 189000 + 0x100000 then some (Char.ofNat (0x10000 + (n - 189000)))
    else none
  else none

end Stepwise.Text.Multibyte
