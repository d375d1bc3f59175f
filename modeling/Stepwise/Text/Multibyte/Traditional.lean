import Stepwise.Text.Grid.HongKong
import Stepwise.Text.Grid.Traditional
import Stepwise.Text.Multibyte.Places

/-!
Traditional Chinese: the five collections, their forms of vendors, and what Hong Kong adds.
-/

namespace Stepwise.Text.Multibyte

/-- The bytes of a place in the five collections. -/
def fiveBytes (place : Nat × Nat) : List UInt8 :=
  bytes [0xA1 + place.1, if place.2 < 63 then 0x40 + place.2 else 0xA1 + (place.2 - 63)]

/-- The place of two bytes in the five collections. -/
def fivePlace? (a b : Nat) : Option (Nat × Nat) :=
  if 0xA1 ≤ a ∧ a < 0xFA then
    if 0x40 ≤ b ∧ b < 0x7F then some (a - 0xA1, b - 0x40)
    else if 0xA1 ≤ b ∧ b < 0xFF then some (a - 0xA1, b - 0xA1 + 63)
    else none
  else none

/-- The characters that vendors put in the place of others. The form of the collections is written
too where `both` says so. -/
def fiveForms : List ((Nat × Nat) × Char × Bool) :=
  [((0, 5), '‧', true), ((0, 14), '﹑', true), ((0, 96), '¯', true), ((0, 129), '～', true),
    ((0, 144), '⊕', true), ((0, 145), '⊙', true), ((1, 1), '∕', false), ((1, 2), '﹨', false),
    ((1, 4), '￥', true), ((1, 6), '￠', true), ((1, 7), '￡', true)]

/-- The character at a place in the collections of vendors. -/
def fiveVendorCharAt? (place : Nat × Nat) : Option Char :=
  match fiveForms.find? (·.1 == place) with
  | some f => some f.2.1
  | none => (Grid.five.charAt? place.1 place.2).orElse fun _ => Grid.fiveAdded.charAt? place.1 place.2

/-- The place of a character in the collections of vendors. -/
def fiveVendorPlace? (c : Char) : Option (Nat × Nat) :=
  match fiveForms.find? (·.2.1 == c) with
  | some f => some f.1
  | none =>
    (Grid.five.lastPlaceOf? c fun p => fiveForms.all fun f => f.1 != p || f.2.2).orElse fun _ =>
      Grid.fiveAdded.placeOf? c

/-! ### Hong Kong -/

/-- The bytes of a place among the additions of Hong Kong. -/
def hongKongBytes (place : Nat × Nat) : List UInt8 :=
  bytes [0x87 + place.1, if place.2 < 63 then 0x40 + place.2 else 0xA1 + (place.2 - 63)]

/-- Whether Hong Kong puts characters of its own in a place of the five collections. -/
def isReplaced (place : Nat × Nat) : Bool :=
  (place.1 == 37 && 63 ≤ place.2) || place.1 == 38 || place.1 == 39

/-- The bytes of a character in the collections of Hong Kong. -/
def hongKongBytes? (c : Char) : Option (List UInt8) :=
  match Grid.hongKong.placeOf? c with
  | some p => some (hongKongBytes p)
  | none => (Grid.five.lastPlaceOf? c (!isReplaced ·)).map fiveBytes

/-- The bytes of a pair of characters in the collections of Hong Kong. -/
def hongKongPairBytes? (c d : Char) : Option (List UInt8) :=
  (Grid.hongKongPairs.find? fun p => p.2.1 == c && p.2.2 == d).map fun p => hongKongBytes p.1

/-- Whether a character may be the first one of a pair. -/
def hongKongWaits (c : Char) : Bool := Grid.hongKongPairs.any (·.2.1 == c)

/-- The characters of two bytes in the collections of Hong Kong. -/
def hongKongChars? (a b : Nat) : Option (List Char) :=
  let cell? :=
    if 0x40 ≤ b ∧ b < 0x7F then some (b - 0x40)
    else if 0xA1 ≤ b ∧ b < 0xFF then some (b - 0xA1 + 63)
    else none
  cell?.bind fun cell =>
    let common? :=
      if 0xA1 ≤ a ∧ !isReplaced (a - 0xA1, cell) then Grid.five.charAt? (a - 0xA1) cell else none
    if a < 0x87 then none
    else
      match common?.orElse fun _ => Grid.hongKong.charAt? (a - 0x87) cell with
      | some c => some [c]
      | none => (Grid.hongKongPairs.find? (·.1 == (a - 0x87, cell))).map fun p => [p.2.1, p.2.2]

end Stepwise.Text.Multibyte
