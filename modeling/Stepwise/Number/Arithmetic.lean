import Stepwise.Number.Double

/-!
Arithmetic on floating-point numbers. Sums, products, quotients and remainders are taken exactly, as
fractions, and rounded once; functions that have no exact values are left to the machine.
-/

namespace Stepwise.Double

/-- The bits of a number in the interchange format. -/
def bits : Double → UInt64
  | nan => 0x7FF8000000000000
  | infinite s => (if s then 0x8000000000000000 else 0) + 0x7FF0000000000000
  | finite s m e =>
    let sign : Nat := if s then Nat.pow 2 63 else 0
    let power : Nat := if m < hiddenBit then 0 else (e - leastExponent).toNat + 1
    UInt64.ofNat (sign + power * hiddenBit + m % hiddenBit)

/-- The number that bits in the interchange format are. -/
def ofBits (b : UInt64) : Double :=
  let n := b.toNat
  let s := n.testBit 63
  let power := n / hiddenBit % 2048
  let m := n % hiddenBit
  if power = 2047 then (if m = 0 then infinite s else nan)
  else if power = 0 then finite s m leastExponent
  else finite s (m + hiddenBit) (leastExponent + (power - 1 : Nat))

/-- A function of the machine. -/
def byMachine (f : Float → Float) (x : Double) : Double := ofBits (f (Float.ofBits x.bits)).toBits

/-- A function of the machine with two arguments. -/
def byMachine₂ (f : Float → Float → Float) (x y : Double) : Double :=
  ofBits (f (Float.ofBits x.bits) (Float.ofBits y.bits)).toBits

/-- A finite number as a fraction with a sign. -/
def fraction (s : Bool) (m : Nat) (e : Int) : Int × Nat :=
  let f := scale 2 m 1 e
  (if s then -(f.1 : Int) else f.1, f.2)

/-- The number nearest to a fraction; a zero has the sign that is given. -/
def ofSigned (negativeZero : Bool) (num : Int) (den : Nat) : Double :=
  if num = 0 then zero negativeZero else ofFraction (decide (num < 0)) num.natAbs den

def neg : Double → Double
  | nan => nan
  | infinite s => infinite !s
  | finite s m e => finite (!s) m e

def add : Double → Double → Double
  | nan, _ => nan
  | _, nan => nan
  | infinite s, infinite t => if s = t then infinite s else nan
  | infinite s, _ => infinite s
  | _, infinite t => infinite t
  | finite s m e, finite t n f =>
    let a := fraction s m e
    let b := fraction t n f
    ofSigned (s && t) (a.1 * b.2 + b.1 * a.2) (a.2 * b.2)

def sub (x y : Double) : Double := x.add y.neg

def mul : Double → Double → Double
  | nan, _ => nan
  | _, nan => nan
  | infinite s, infinite t => infinite (s != t)
  | infinite s, finite t n _ => if n = 0 then nan else infinite (s != t)
  | finite s m _, infinite t => if m = 0 then nan else infinite (s != t)
  | finite s m e, finite t n f =>
    let a := scale 2 (m * n) 1 (e + f)
    if m * n = 0 then zero (s != t) else ofFraction (s != t) a.1 a.2

def div : Double → Double → Double
  | nan, _ => nan
  | _, nan => nan
  | infinite _, infinite _ => nan
  | infinite s, finite t _ _ => infinite (s != t)
  | finite s _ _, infinite t => zero (s != t)
  | finite s m e, finite t n f =>
    if n = 0 then (if m = 0 then nan else infinite (s != t))
    else if m = 0 then zero (s != t)
    else
      let a := scale 2 m n (e - f)
      ofFraction (s != t) a.1 a.2

/-- The remainder of a quotient that is cut off towards zero. -/
def rem : Double → Double → Double
  | nan, _ => nan
  | _, nan => nan
  | infinite _, _ => nan
  | x, infinite _ => x
  | finite s m e, finite _ n f =>
    if n = 0 then nan
    else
      let low := min e f
      let a := m * Nat.pow 2 (e - low).toNat
      let b := n * Nat.pow 2 (f - low).toNat
      let r := scale 2 (a % b) 1 low
      if a % b = 0 then zero s else ofFraction s r.1 r.2

/-- The number without what follows its point. -/
def truncated : Double → Double
  | finite s m e =>
    if 0 ≤ e then finite s m e
    else
      let n := m / Nat.pow 2 (-e).toNat
      if n = 0 then zero s else ofFraction s n 1
  | x => x

/-- How two numbers compare; numbers that cannot be compared count as equal. -/
def order : Double → Double → Ordering
  | nan, _ => .eq
  | _, nan => .eq
  | infinite s, infinite t => compare (!s).toNat (!t).toNat
  | infinite s, _ => if s then .lt else .gt
  | _, infinite t => if t then .gt else .lt
  | finite s m e, finite t n f =>
    let a := fraction s m e
    let b := fraction t n f
    compare (a.1 * b.2) (b.1 * a.2)

/-- Whether a number is zero. -/
def isZero : Double → Bool
  | finite _ m _ => m == 0
  | _ => false

end Stepwise.Double
