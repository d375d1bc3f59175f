import Stepwise.Number.Places

/-!
Binary floating-point formats of several widths: reading a number from its bits, and the decimal text
with the fewest digits, but no fewer than the format always keeps, that reads back as the number.
-/

namespace Stepwise

/-- A format of binary numbers: the bits of its fraction, the bits of its power, whether the bit in front
of the fraction is written too, and how many decimal digits it always keeps. -/
structure BinaryFormat where
  fraction : Nat
  power : Nat
  explicit : Bool
  digits : Nat

namespace BinaryFormat

def single : BinaryFormat := ⟨23, 8, false, 6⟩
def double : BinaryFormat := ⟨52, 11, false, 15⟩
def extended : BinaryFormat := ⟨63, 15, true, 18⟩

/-- The power of two of the finest grid. -/
def leastExponent (f : BinaryFormat) : Int := 2 - (Nat.pow 2 (f.power - 1) : Nat) - f.fraction

/-- Whether a fraction reads back as `m * 2 ^ e`: it lies between the midpoints to the two neighbours,
which belong to it when `m` is even. -/
def readsBack (f : BinaryFormat) (m : Nat) (e : Int) (num den : Nat) : Bool :=
  let below := if m = Nat.pow 2 f.fraction ∧ f.leastExponent < e then 4 * m - 1 else 4 * m - 2
  let low := Double.scale 2 below 1 (e - 2)
  let high := Double.scale 2 (4 * m + 2) 1 (e - 2)
  if m % 2 = 0 then low.1 * den ≤ num * low.2 && num * high.2 ≤ high.1 * den
  else low.1 * den < num * low.2 && num * high.2 < high.1 * den

/-- The power of two of the grid on which a positive fraction is rounded. -/
def gridExponent (f : BinaryFormat) (num den : Nat) : Int :=
  let e : Int := (Nat.log2 num : Int) - Nat.log2 den - f.fraction
  let v := Double.scale 2 num den (-e)
  max f.leastExponent (if v.1 / v.2 < Nat.pow 2 f.fraction then e - 1 else e)

/-- The number nearest to a positive fraction, as `m * 2 ^ e`, unless it is too large for the format. -/
def nearest? (f : BinaryFormat) (num den : Nat) : Option (Nat × Int) :=
  let e := f.gridExponent num den
  let v := Double.scale 2 num den (-e)
  let m := Double.roundDiv v.1 v.2
  let top := Nat.pow 2 (f.fraction + 1)
  let (m, e) := if m = top then (m / 2, e + 1) else (m, e)
  if (Nat.pow 2 (f.power - 1) : Nat) ≤ e + f.fraction then none else some (m, e)

/-- The text of a number with at least `count` digits that count, if no more than `n` more are needed. -/
def textFrom (f : BinaryFormat) (m : Nat) (e : Int) : Nat → Nat → List Char
  | 0, count =>
    let v := Double.scale 2 m 1 e
    Places.general false count v.1 v.2
  | n + 1, count =>
    let v := Double.scale 2 m 1 e
    let (ds, power) := Places.digits (count - 1) v.1 v.2
    let back := Double.scale 10 ((String.ofList ds).toNat?.getD 0) 1 (power - (count - 1 : Nat))
    if f.readsBack m e back.1 back.2 then Places.general false count v.1 v.2 else textFrom f m e n (count + 1)

/-- The text of the number that some bits are. -/
def text (f : BinaryFormat) (bits : Nat) : List Char :=
  let width := f.fraction + if f.explicit then 1 else 0
  let fraction := bits % Nat.pow 2 width
  let power := bits / Nat.pow 2 width % Nat.pow 2 f.power
  let sign := if bits.testBit (width + f.power) then ['-'] else []
  let hidden := Nat.pow 2 f.fraction
  sign ++
    if power = Nat.pow 2 f.power - 1 then
      (if fraction % hidden = 0 && (!f.explicit || fraction = hidden) then "inf".toList else "nan".toList)
    else if f.explicit && 0 < power && fraction < hidden then "nan".toList
    else
      let m := if f.explicit || power = 0 then fraction else fraction + hidden
      let e := f.leastExponent + (max power 1 - 1 : Nat)
      if m = 0 then ['0'] else f.textFrom m e 30 (if m < hidden then 1 else f.digits)

end BinaryFormat

end Stepwise
