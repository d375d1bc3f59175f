
/-!
Bytes of places, and numbers that are skipped.
-/

namespace Stepwise.Text.Multibyte

/-- Bytes by their numbers. -/
def bytes (ns : List Nat) : List UInt8 := ns.map Nat.toUInt8

/-- The bytes of a place, from 0xA1 on. -/
def highBytes (place : Nat × Nat) : List UInt8 := bytes [0xA1 + place.1, 0xA1 + place.2]

/-- The place of two bytes from 0xA1 on. -/
def highPlace? (a b : Nat) : Option (Nat × Nat) :=
  if 0xA1 ≤ a ∧ a < 0xFF ∧ 0xA1 ≤ b ∧ b < 0xFF then some (a - 0xA1, b - 0xA1) else none

/-- The numbers from `start` on that are not among some others in order: the one at an index. -/
def missingAt (taken : List Nat) (start index : Nat) : Nat :=
  taken.foldl (fun n t => if start ≤ t ∧ t ≤ n then n + 1 else n) (start + index)

/-- How many numbers from `start` up to `n` are not among some others. -/
def missingBelow (taken : List Nat) (start n : Nat) : Nat :=
  n - start - taken.countP fun t => start ≤ t && t < n

end Stepwise.Text.Multibyte
