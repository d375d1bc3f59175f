/-!
Integers as the shell reads them: blanks and a sign may come first, and a leading zero, alone or with
an `x`, may tell the base. Numbers have 64 bits; what is too large for them is as large as can be.
-/

namespace Stepwise.Shell

/-- A number that a text begins with, and what follows it; `found` tells whether there was one. -/
structure LeadingInteger where
  value : Int
  rest : List Char
  found : Bool

/-- Blanks, in any form. -/
def isBlank (c : Char) : Bool := c == ' ' || (9 ≤ c.toNat && c.toNat ≤ 13)

/-- The value of a digit in bases up to sixteen. -/
def digitValue (c : Char) : Nat :=
  if c.isDigit then c.toNat - 48
  else if 'a' ≤ c.toLower ∧ c.toLower ≤ 'f' then c.toLower.toNat - 87
  else 16

/-- The base that the first characters of a number tell, and its digits. -/
def baseOf (cs : List Char) : Nat × List Char :=
  match cs with
  | '0' :: x :: d :: rest =>
    if x.toLower = 'x' ∧ digitValue d < 16 then (16, d :: rest) else (8, cs)
  | '0' :: _ => (8, cs)
  | _ => (10, cs)

/-- The number that a text begins with, in base ten or in the base that it tells. -/
def readInteger (anyBase : Bool) (cs : List Char) : LeadingInteger :=
  let trimmed := cs.dropWhile isBlank
  let (negative, digits) := match trimmed with
    | '-' :: rest => (true, rest)
    | '+' :: rest => (false, rest)
    | rest => (false, rest)
  let (base, digits) := if anyBase then baseOf digits else (10, digits)
  let run := digits.takeWhile fun c => decide (digitValue c < base)
  if run.isEmpty then ⟨0, cs, false⟩
  else
    let n : Nat := run.foldl (fun n c => n * base + digitValue c) 0
    ⟨if negative then -n else n, digits.drop run.length, true⟩

/-- The least and the greatest number. -/
def leastInteger : Int := -9223372036854775808
def greatestInteger : Int := 9223372036854775807

/-- Whether a number has at most 64 bits. -/
def isInteger (i : Int) : Bool := leastInteger ≤ i && i ≤ greatestInteger

/-- The number nearest to one that may be too large. -/
def clamped (i : Int) : Int := max leastInteger (min i greatestInteger)

/-- The number that a text is, if it is one; blanks may stand around it. A blank text is zero where any
base is allowed. -/
def integer? (anyBase : Bool) (s : String) : Option Int :=
  let r := readInteger anyBase s.toList
  if (r.found || anyBase) && (r.rest.all isBlank) && isInteger r.value then some r.value else none

/-- A number that is not negative and small enough to count with. -/
def count? (s : String) : Option Nat :=
  match integer? false s with
  | some i => if 0 ≤ i ∧ i ≤ 2147483647 then some i.toNat else none
  | none => none

end Stepwise.Shell
