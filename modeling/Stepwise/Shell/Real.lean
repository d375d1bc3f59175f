import Stepwise.Number.Format
import Stepwise.Shell.Integer

/-!
Floating-point numbers as the shell reads them: in base ten or sixteen, with a point and a power, or the
words for what is no number or too large for one. What was read is kept exactly, and rounded to the
format that is asked for.
-/

namespace Stepwise.Shell

/-- The size of a number: digits times a power of a base, or none that can be told. -/
inductive Magnitude
  | nan
  | infinite
  | scaled (digits base : Nat) (power : Int)
  deriving DecidableEq, Repr, Inhabited

/-- A number that a text begins with, its sign, which not all numbers show, and what follows it. -/
structure LeadingReal where
  magnitude : Magnitude
  negative : Bool
  rest : List Char

/-- The power at the beginning of a text after a letter, if there is one, and what follows it. -/
def readPower (letter : Char) (cs : List Char) : Int × List Char :=
  match cs with
  | x :: more =>
    let (minus, ds) := match more with
      | '-' :: ds => (true, ds)
      | '+' :: ds => (false, ds)
      | ds => (false, ds)
    let run := ds.takeWhile Char.isDigit
    if x.toLower = letter ∧ !run.isEmpty then
      let n : Nat := (String.ofList run).toNat?.getD 0
      ((if minus then -(n : Int) else n), ds.drop run.length)
    else (0, cs)
  | [] => (0, cs)

/-- The digits before and after a point at the beginning of a text, and what follows them. -/
def readPoint (isDigit : Char → Bool) (cs : List Char) : List Char × List Char × List Char :=
  let whole := cs.takeWhile isDigit
  match cs.drop whole.length with
  | '.' :: more =>
    let part := more.takeWhile isDigit
    if whole.isEmpty && part.isEmpty then ([], [], cs) else (whole, part, more.drop part.length)
  | rest => (whole, [], rest)

/-- The number that a text begins with after its sign, in base ten. -/
def readDecimal (cs : List Char) : Option (Magnitude × List Char) :=
  let (whole, part, rest) := readPoint Char.isDigit cs
  if whole.isEmpty && part.isEmpty then none
  else
    let (e, rest) := readPower 'e' rest
    some (.scaled ((String.ofList (whole ++ part)).toNat?.getD 0) 10 (e - part.length), rest)

/-- The number that a text begins with after its sign and the letter of base 16. -/
def readHexadecimal (cs : List Char) : Option (Magnitude × List Char) :=
  let (whole, part, rest) := readPoint (fun c => decide (digitValue c < 16)) cs
  if whole.isEmpty && part.isEmpty then none
  else
    let (e, rest) := readPower 'p' rest
    some (.scaled ((whole ++ part).foldl (fun n c => n * 16 + digitValue c) 0) 2 (e - 4 * part.length), rest)

/-- What follows the letters that are no number: a word in parentheses belongs to them. -/
def afterNan (cs : List Char) : List Char :=
  match cs with
  | '(' :: more =>
    match more.dropWhile fun c => c.isAlphanum || c == '_' with
    | ')' :: rest => rest
    | _ => cs
  | _ => cs

/-- The number that a text begins with. -/
def readReal (cs : List Char) : LeadingReal :=
  let trimmed := cs.dropWhile isBlank
  let (negative, body) := match trimmed with
    | '-' :: rest => (true, rest)
    | '+' :: rest => (false, rest)
    | rest => (false, rest)
  let lower := body.map Char.toLower
  let begins := fun (s : String) => s.toList.isPrefixOf lower
  let hexadecimal? := match body with
    | '0' :: x :: rest => if x.toLower = 'x' then readHexadecimal rest else none
    | _ => none
  if begins "infinity" then ⟨.infinite, negative, body.drop 8⟩
  else if begins "inf" then ⟨.infinite, negative, body.drop 3⟩
  else if begins "nan" then ⟨.nan, negative, afterNan (body.drop 3)⟩
  else
    match hexadecimal?.orElse fun _ => readDecimal body with
    | some (size, rest) => ⟨size, negative, rest⟩
    | none => ⟨.scaled 0 10 0, false, cs⟩

namespace Magnitude

/-- A number as a fraction, unless it is so large, or so small, that no format has anything like it; `limit`
is the power of the base beyond which that is so. -/
def fraction? (limit : Int) : Magnitude → Option (Nat × Nat)
  | nan => none
  | infinite => none
  | scaled digits base power =>
    let size : Int := (if base = 10 then (Nat.toDigits 10 digits).length else Nat.log2 digits) + power
    if digits = 0 then some (0, 1)
    else if limit < size then none
    else if size < -limit then some (0, 1)
    else some (Double.scale base digits 1 power)

end Magnitude

namespace LeadingReal

/-- The number with 53 bits, and whether what was read is too large or too small for one. -/
def toDouble (r : LeadingReal) : Double × Bool :=
  match r.magnitude with
  | .nan => (.nan, false)
  | .infinite => (.infinite r.negative, false)
  | .scaled digits _ _ =>
    if digits = 0 then (.zero r.negative, false)
    else
      match r.magnitude.fraction? 2000 with
      | none => (.infinite r.negative, true)
      | some (num, den) =>
        let x := Double.ofFraction r.negative num den
        (x, match x with
          | .finite _ m _ => m < Double.hiddenBit && (num = 0 || m * den != num * Nat.pow 2 1074)
          | _ => true)

end LeadingReal

end Stepwise.Shell
