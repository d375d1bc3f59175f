/-!
Bytes that spell no text.
-/

namespace Stepwise.Text

/-- A stretch of bytes that spells nothing: where it begins, its length, and why it is refused. -/
structure Flaw where
  position : Nat
  length : Nat
  reason : String
  deriving DecidableEq, Repr

end Stepwise.Text
