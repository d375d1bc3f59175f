import Stepwise.Text.Digit

/-!
Decimal numerals of bounded length. A numeral with more digits than the limit is refused whatever
its value, so leading zeros count.
-/

namespace Stepwise

/-- A numeral that is refused for its length. -/
structure Overlong where
  digits : Nat
  deriving DecidableEq, Repr

namespace Numeral

/-- The longest numeral that is read. -/
def limit : Nat := 4300

/-- The number that decimal digits denote, unless there are too many of them. -/
def read (cs : List Char) : Except Overlong Nat :=
  if limit < cs.length then .error ⟨cs.length⟩ else .ok (Text.numeral cs)

end Numeral

/-- What a refused numeral is reported as. -/
def Overlong.message (o : Overlong) : String :=
  "Exceeds the limit (4300 digits) for integer string conversion: value has " ++ toString o.digits ++
    " digits; use sys.set_int_max_str_digits() to increase the limit"

end Stepwise
