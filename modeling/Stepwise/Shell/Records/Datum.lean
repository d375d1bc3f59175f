import Stepwise.Number.Arithmetic
import Stepwise.Shell.Format
import Stepwise.Shell.Real

/-!
What programs on records compute with: numbers and texts, either of which may be used as the other. Text
that came from outside counts as a number if it looks like one.
-/

namespace Stepwise.Shell.Records

/-- A value: none yet, a number, a text, or a text from outside. -/
inductive Datum
  | unset
  | number (x : Double)
  | text (s : String)
  | entry (s : String)
  deriving Inhabited

/-- The number that a text begins with, or zero. -/
def numberOf (s : String) : Double := (readReal s.toList).toDouble.1

/-- Whether a text is a number in base ten, perhaps with blanks around it. -/
def looksNumeric (s : String) : Bool :=
  let body := s.toList.dropWhile isBlank
  let digits := match body with
    | '-' :: rest => rest
    | '+' :: rest => rest
    | rest => rest
  match readDecimal digits with
  | some (_, rest) => rest.all isBlank
  | none => false

/-- A number in a format with one directive. -/
def inFormat (format : String) (x : Double) : String :=
  let cs := format.toList
  match directive? ((cs.dropWhile (· != '%')).drop 1) ⟨[], [], false, [], false, false⟩ with
  | some (d, rest, _) =>
    let negative := match x with
      | .finite s _ _ => s
      | .infinite s => s
      | .nan => true
    String.ofList (cs.takeWhile (· != '%') ++ d.double negative x ++ rest)
  | none => format

/-- A number as text: whole ones have all their digits unless they have more than 64 bits, and others
follow a format. -/
def numberText (format : String) (x : Double) : String :=
  match x.toInt? with
  | some i => if -9223372036854775808 ≤ i ∧ i < 18446744073709551616 then toString i
    else if i = 18446744073709551616 then "18446744073709551615" else inFormat format x
  | none => inFormat format x

namespace Datum

/-- A value as a number. -/
def toNumber : Datum → Double
  | unset => .zero false
  | number x => x
  | text s => numberOf s
  | entry s => numberOf s

/-- A value as a text, numbers following a format. -/
def toText (format : String) : Datum → String
  | unset => ""
  | number x => numberText format x
  | text s => s
  | entry s => s

/-- Whether a value is used as a number where either would do. -/
def isNumeric : Datum → Bool
  | unset => true
  | number _ => true
  | text _ => false
  | entry s => looksNumeric s

/-- Whether a value holds as a condition. -/
def isTrue : Datum → Bool
  | unset => false
  | number x => !x.isZero
  | text s => !s.isEmpty
  | entry s => if looksNumeric s then !(numberOf s).isZero else !s.isEmpty

/-- How two texts compare, byte by byte. -/
def compareText (a b : String) : Ordering := if a < b then .lt else if a == b then .eq else .gt

/-- How two values compare: as numbers if both are, and as texts otherwise. -/
def order (format : String) (a b : Datum) : Ordering :=
  if a.isNumeric && b.isNumeric then a.toNumber.order b.toNumber
  else compareText (a.toText format) (b.toText format)

/-- A whole number as a value. -/
def ofNat (n : Nat) : Datum := number (.ofInt n)

/-- A condition as a value. -/
def ofBool (b : Bool) : Datum := ofNat b.toNat

end Datum

end Stepwise.Shell.Records
