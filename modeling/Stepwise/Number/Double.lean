/-!
Binary floating-point numbers with 53 significant bits, as exact dyadic rationals. Every finite
number has one form: its mantissa fills 53 bits, or its exponent is the least one. Rounding goes to
the nearest number and from a tie to the even mantissa; all of it is arithmetic on `Nat`.
-/

namespace Stepwise

/-- A floating-point number; `finite s m e` is `m * 2 ^ e`, negated when `s`. -/
inductive Double
  | nan
  | infinite (negative : Bool)
  | finite (negative : Bool) (mantissa : Nat) (exponent : Int)
  deriving DecidableEq, Repr, Inhabited

namespace Double

/-- The exponent of the finest grid. -/
def leastExponent : Int := -1074

/-- The largest exponent of a finite number. -/
def greatestExponent : Int := 971

/-- The leading bit of a full mantissa, which has 53 bits. -/
def hiddenBit : Nat := Nat.pow 2 52

def zero (negative : Bool) : Double := finite negative 0 leastExponent

/-- `base ^ e` times the fraction `num / den`, as a fraction. -/
def scale (base num den : Nat) (e : Int) : Nat × Nat :=
  if 0 ≤ e then (num * Nat.pow base e.toNat, den) else (num, den * Nat.pow base (-e).toNat)

/-- A quotient rounded to the nearest integer, a tie going to the even one. -/
def roundDiv (num den : Nat) : Nat :=
  let q := num / den
  let r := num % den
  if den < 2 * r ∨ (2 * r = den ∧ q % 2 = 1) then q + 1 else q

/-- The exponent of the grid on which a positive fraction is rounded. -/
def gridExponent (num den : Nat) : Int :=
  let e : Int := (Nat.log2 num : Int) - (Nat.log2 den : Int) - 52
  let f := scale 2 num den (-e)
  max leastExponent (if f.1 / f.2 < hiddenBit then e - 1 else e)

/-- The number nearest to a fraction with a positive denominator. -/
def ofFraction (negative : Bool) (num den : Nat) : Double :=
  if num = 0 then zero negative
  else
    let e := gridExponent num den
    let f := scale 2 num den (-e)
    let m := roundDiv f.1 f.2
    let r := if m = 2 * hiddenBit then (hiddenBit, e + 1) else (m, e)
    if greatestExponent < r.2 then infinite negative else finite negative r.1 r.2

/-- The number nearest to `digits * 10 ^ e`. Magnitudes far outside the range are settled by the
number of digits alone. -/
def ofDecimal (negative : Bool) (digits : Nat) (e : Int) : Double :=
  let size : Int := (Nat.toDigits 10 digits).length + e
  if digits = 0 ∨ size < -400 then zero negative
  else if 400 < size then infinite negative
  else
    let f := scale 10 digits 1 e
    ofFraction negative f.1 f.2

/-- The number nearest to an integer. -/
def ofInt (i : Int) : Double := ofFraction (decide (i < 0)) i.natAbs 1

/-- The integer that a number equals, if it is whole. -/
def toInt? : Double → Option Int
  | finite s m e =>
    let f := scale 2 m 1 e
    if f.1 % f.2 = 0 then some (if s then -(f.1 / f.2 : Nat) else (f.1 / f.2 : Nat)) else none
  | _ => none

/-- How a number compares with an integer; nothing compares with `nan`. -/
def compareInt? (d : Double) (i : Int) : Option Ordering :=
  match d with
  | nan => none
  | infinite s => some (if s then .lt else .gt)
  | finite s m e =>
    let f := scale 2 m 1 e
    let n : Int := if s then -(f.1 : Int) else f.1
    some (compare n (i * f.2))

/-- Whether a number is finite. -/
def isFinite : Double → Bool
  | finite .. => true
  | _ => false

end Double

end Stepwise
