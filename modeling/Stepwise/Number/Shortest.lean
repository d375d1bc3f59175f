import Stepwise.Number.Double

/-!
The decimal text of a floating-point number: the fewest digits that read back as the number, and of
those the nearest. Values from `10 ^ -4` up to `10 ^ 16` are written positionally and keep a
fractional part; others have an exponent of at least two digits.
-/

namespace Stepwise.Double

/-- Whether a fraction rounds to the number `m * 2 ^ e`: it lies between the midpoints to the two
neighbours, which belong to it when `m` is even. -/
def roundsTo (m : Nat) (e : Int) (num den : Nat) : Bool :=
  let below := if m = hiddenBit ∧ leastExponent < e then 4 * m - 1 else 4 * m - 2
  let low := scale 2 below 1 (e - 2)
  let high := scale 2 (4 * m + 2) 1 (e - 2)
  if m % 2 = 0 then low.1 * den ≤ num * low.2 && num * high.2 ≤ high.1 * den
  else low.1 * den < num * low.2 && num * high.2 < high.1 * den

/-- The decimal exponent of the leading digit of `m * 2 ^ e`. -/
def leadingExponent (m : Nat) (e : Int) : Int :=
  let k := Int.fdiv ((e + Nat.log2 m) * 30103) 100000
  let v := scale 2 m 1 e
  let p := scale 10 1 1 (k + 1)
  if p.1 * v.2 ≤ v.1 * p.2 then k + 1 else k

/-- Of the two neighbours of `m * 2 ^ e` on the grid `10 ^ g`, the nearest that rounds to it. -/
def onGrid (m : Nat) (e g : Int) : Option Nat :=
  let v := scale 2 m 1 e
  let w := scale 10 v.1 v.2 (-g)
  let down := w.1 / w.2
  let fits (c : Nat) : Bool :=
    let f := scale 10 c 1 g
    roundsTo m e f.1 f.2
  let nearest := roundDiv w.1 w.2
  if fits nearest then some nearest
  else if fits down then some down
  else if fits (down + 1) then some (down + 1)
  else none

/-- The digits found on the first grid that has any, trying `n` more grids. -/
def firstGrid (m : Nat) (e top : Int) : Nat → Nat → Nat × Int
  | 0, _ => (0, 0)
  | n + 1, used =>
    let g := top - used
    match onGrid m e g with
    | some c => (c, g)
    | none => firstGrid m e top n (used + 1)

/-- The fewest digits, with the exponent of the last one. -/
def shortest (m : Nat) (e : Int) : Nat × Int := firstGrid m e (leadingExponent m e) 17 0

/-- The digits without trailing zeros. -/
def significant (n : Nat) : List Char :=
  match ((Nat.toDigits 10 n).reverse.dropWhile (· == '0')).reverse with
  | [] => ['0']
  | ds => ds

/-- Digits with the point after the first `point` of them, written positionally. -/
def positional (digits : List Char) (point : Int) : List Char :=
  if point ≤ 0 then '0' :: '.' :: List.replicate (-point).toNat '0' ++ digits
  else
    let n := point.toNat
    let whole := digits.take n ++ List.replicate (n - digits.length) '0'
    let rest := digits.drop n
    whole ++ '.' :: (if rest.isEmpty then ['0'] else rest)

/-- Digits with an exponent, which has a sign and at least two digits. -/
def scientific (digits : List Char) (exponent : Int) : List Char :=
  let head := digits.take 1
  let rest := digits.drop 1
  let size := Nat.toDigits 10 exponent.natAbs
  head ++ (if rest.isEmpty then [] else '.' :: rest) ++ 'e' :: (if exponent < 0 then '-' else '+') ::
    (if size.length < 2 then '0' :: size else size)

/-- The text of `m * 2 ^ e`. -/
def magnitudeText (m : Nat) (e : Int) : List Char :=
  if m = 0 then ['0', '.', '0']
  else
    let s := shortest m e
    let digits := significant s.1
    let point : Int := (Nat.toDigits 10 s.1).length + s.2
    if -4 < point ∧ point ≤ 16 then positional digits point else scientific digits (point - 1)

/-- The text of a finite number, with its sign. -/
def finiteText (negative : Bool) (m : Nat) (e : Int) : String :=
  String.ofList ((if negative then ['-'] else []) ++ magnitudeText m e)

/-- The text of a number in prose. -/
def text : Double → String
  | nan => "nan"
  | infinite s => if s then "-inf" else "inf"
  | finite s m e => finiteText s m e

end Stepwise.Double
