import Stepwise.Number.Double

/-!
Decimal text with a fixed number of digits. A number is an exact fraction here, so every digit is right,
and a tie goes to the even digit.
-/

namespace Stepwise.Places

/-- A number in decimal digits, at least `width` of them. -/
def padded (width n : Nat) : List Char :=
  let ds := Nat.toDigits 10 n
  List.replicate (width - ds.length) '0' ++ ds

/-- A fraction with a number of places after the point; `point` keeps the point before no places. -/
def fixed (point : Bool) (places num den : Nat) : List Char :=
  let ds := padded (places + 1) (Double.roundDiv (num * Nat.pow 10 places) den)
  let whole := ds.take (ds.length - places)
  if places = 0 then (if point then whole ++ ['.'] else whole) else whole ++ '.' :: ds.drop whole.length

/-- The power of ten of the leading digit of a positive fraction, at most `n` steps from a guess. -/
def leading (num den : Nat) : Nat → Int → Int
  | 0, e => e
  | n + 1, e =>
    let f := Double.scale 10 num den (-e)
    if f.1 < f.2 then leading num den n (e - 1)
    else if 10 * f.2 ≤ f.1 then leading num den n (e + 1)
    else e

/-- The digits of a fraction, one before the point and some after it, and the power of ten. -/
def digits (places num den : Nat) : List Char × Int :=
  if num = 0 then (List.replicate (places + 1) '0', 0)
  else
    let guess : Int := ((Nat.toDigits 10 num).length : Int) - (Nat.toDigits 10 den).length
    let e := leading num den 4 guess
    let f := Double.scale 10 num den (places - e)
    let n := Double.roundDiv f.1 f.2
    if n < Nat.pow 10 (places + 1) then (padded (places + 1) n, e)
    else (padded (places + 1) (n / 10), e + 1)

/-- A power of ten in words, with a sign and at least two digits. -/
def exponent (e : Int) : List Char := 'e' :: (if e < 0 then '-' else '+') :: padded 2 e.natAbs

/-- A fraction with one digit before the point, and the power of ten. -/
def scientific (point : Bool) (places num den : Nat) : List Char :=
  let (ds, e) := digits places num den
  ds.take 1 ++ (if places = 0 && !point then [] else '.' :: ds.drop 1) ++ exponent e

/-- Text without the zeros that end its places, nor a point that ends it. -/
def shortened (cs : List Char) : List Char :=
  if cs.contains '.' then
    ((cs.reverse.dropWhile (· == '0')).dropWhile (· == '.')).reverse
  else cs

/-- A fraction with a number of digits that count, in the form that suits its size; zeros at the end
are kept if `point` is. -/
def general (point : Bool) (count num den : Nat) : List Char :=
  let count := max count 1
  let e := (digits (count - 1) num den).2
  let trim := fun (cs : List Char) => if point then cs else shortened cs
  if -4 ≤ e ∧ e < count then trim (fixed point ((count : Int) - 1 - e).toNat num den)
  else
    let (ds, e) := digits (count - 1) num den
    trim (ds.take 1 ++ '.' :: ds.drop 1) ++ exponent e

/-- Digits in base 16, at least `width` of them. -/
def hexPadded (width n : Nat) : List Char :=
  let ds := Nat.toDigits 16 n
  List.replicate (width - ds.length) '0' ++ ds

/-- A number `m * 2 ^ e` with 64 bits in base 16, four bits before the point, and the power of two: as many
places as it needs, or a given number of them. -/
def wideHexadecimal (point : Bool) (places : Option Nat) (m : Nat) (e : Int) : List Char :=
  let digits := hexPadded 16 m
  let power : Int := if m = 0 then 0 else e + 60
  let (shown, power) := match places with
    | none => (digits.take 1 ++ ((digits.drop 1).reverse.dropWhile (· == '0')).reverse, power)
    | some p =>
      if p < 15 then
        let n := Double.roundDiv m (Nat.pow 16 (15 - p))
        if n = Nat.pow 16 (p + 1) then ('1' :: List.replicate p '0', power + 4) else (hexPadded (p + 1) n, power)
      else (digits ++ List.replicate (p - 15) '0', power)
  let ends := 'p' :: (if power < 0 then '-' else '+') :: Nat.toDigits 10 power.natAbs
  shown.take 1 ++ (if shown.length ≤ 1 && !point then [] else '.' :: shown.drop 1) ++ ends

/-- A number `m * 2 ^ e` with 53 bits in base 16, and the power of two: as many places as it needs, or a
given number of them. -/
def hexadecimal (point : Bool) (places : Option Nat) (m : Nat) (e : Int) : List Char :=
  let power : Int := if m = 0 then 0 else e + 52
  let digits := hexPadded 14 m
  let shown := match places with
    | none => digits.take 1 ++ ((digits.drop 1).reverse.dropWhile (· == '0')).reverse
    | some p =>
      if p < 13 then hexPadded (p + 1) (Double.roundDiv m (Nat.pow 16 (13 - p)))
      else digits ++ List.replicate (p - 13) '0'
  let ends := 'p' :: (if power < 0 then '-' else '+') :: Nat.toDigits 10 power.natAbs
  shown.take 1 ++ (if shown.length ≤ 1 && !point then [] else '.' :: shown.drop 1) ++ ends

end Stepwise.Places
