import Stepwise.Number.Double
import Stepwise.Number.Numeral
import Stepwise.Text.Blank
import Stepwise.Text.Digit
import Stepwise.Text.Lines

/-!
Numbers as people write them in settings: blanks around, a sign, single underscores between digits,
and for integers leading zeros and a fraction of zeros.
-/

namespace Stepwise.Reading

/-- The blanks that may surround a number. -/
def isSpacing (c : Char) : Bool := Text.isBlank c && !(0x1C ≤ c.toNat && c.toNat ≤ 0x1F)

/-- The text without surrounding blanks. -/
def core (cs : List Char) : List Char := Text.dropEndWhile isSpacing (cs.dropWhile isSpacing)

/-- The sign of a numeral, and its body. -/
def splitSign : List Char → Bool × List Char
  | '-' :: rest => (true, rest)
  | '+' :: rest => (false, rest)
  | cs => (false, cs)

/-- The text without underscores, if none is first, last or beside another. -/
def dropUnderscores (cs : List Char) : Option (List Char) :=
  if cs.head? == some '_' || cs.getLast? == some '_' || Text.occurs ['_', '_'] cs then none
  else some (cs.filter (· != '_'))

/-- The text before a fraction of zeros. -/
def dropZeroFraction (cs : List Char) : List Char :=
  match Text.cutFirst '.' cs with
  | some (whole, rest) => if !rest.isEmpty && rest.all (· == '0') then whole else cs
  | none => cs

/-- What follows zeros, the last of which is `zero`; underscores among them count as zeros. Zeros
alone, or before a point, keep the last. -/
def afterZeros (zero : Char) : List Char → Option (List Char)
  | [] => some [zero]
  | c :: rest =>
    if c = '0' ∨ c = '_' then afterZeros c rest
    else if c.isDigit ∨ c = '-' then some (c :: rest)
    else if c = '.' then some (zero :: c :: rest)
    else none

/-- A numeral without leading zeros; nothing else than a digit may begin it. -/
def dropZeros : List Char → Option (List Char)
  | [] => none
  | c :: rest =>
    if c = '0' then afterZeros c rest
    else if c.isDigit then some (c :: rest)
    else none

/-- Why a text denotes no integer. -/
inductive Refusal
  | unreadable
  | oversized
  deriving DecidableEq, Repr

/-- The integer of digits after an optional minus sign, without leading zeros. A numeral that is too long
is refused for that, whatever follows it. -/
def signedNumeral (cs : List Char) : Except Refusal Int :=
  let negative := cs.head? == some '-'
  let body := if negative then cs.drop 1 else cs
  let digits := body.takeWhile Char.isDigit
  if digits.isEmpty || (digits.head? == some '0' && digits.length != 1) then .error .unreadable
  else if Numeral.limit < digits.length then .error .oversized
  else if digits.length != body.length then .error .unreadable
  else .ok (if negative then -(Text.numeral digits : Int) else Text.numeral digits)

/-- The integer that a text denotes. A minus sign may also follow leading zeros. -/
def integer (s : String) : Except Refusal Int :=
  let (negative, body) := splitSign (core s.toList)
  match dropZeros body with
  | none => .error .unreadable
  | some cs =>
    let cs := dropZeroFraction ((if negative then ['-'] else []) ++ cs)
    signedNumeral ((dropUnderscores cs).getD cs)

/-- A number without its sign: a word, or digits with a point and an exponent. -/
def unsigned? (negative : Bool) (cs : List Char) : Option Double :=
  let word := cs.map Char.toLower
  if word == "inf".toList || word == "infinity".toList then some (.infinite negative)
  else if word == "nan".toList then some .nan
  else
    let whole := cs.takeWhile Char.isDigit
    let rest := cs.dropWhile Char.isDigit
    let point := rest.head? == some '.'
    let part := if point then (rest.drop 1).takeWhile Char.isDigit else []
    let tail := if point then (rest.drop 1).dropWhile Char.isDigit else rest
    let digits := whole ++ part
    let scaled (e : Int) := Double.ofDecimal negative (Text.numeral digits) (e - part.length)
    if digits.isEmpty then none
    else
      match tail with
      | [] => some (scaled 0)
      | c :: power =>
        let (down, ds) := splitSign power
        if (c == 'e' || c == 'E') && !ds.isEmpty && ds.all Char.isDigit then
          some (scaled (if down then -(Text.numeral ds : Int) else Text.numeral ds))
        else none

/-- The number that a text without blanks denotes. -/
def signed? (cs : List Char) : Option Double :=
  let (negative, body) := splitSign cs
  unsigned? negative body

/-- The number that a text denotes. Only a text without blanks may have underscores. -/
def number? (s : String) : Option Double :=
  (signed? (core s.toList)).orElse fun _ => (dropUnderscores s.toList).bind signed?

/-- The truth value that a word denotes, in any letter case. -/
def flag? (s : String) : Option Bool :=
  let word := String.ofList (s.toList.map Char.toLower)
  if ["0", "off", "f", "false", "n", "no"].contains word then some false
  else if ["1", "on", "t", "true", "y", "yes"].contains word then some true
  else none

end Stepwise.Reading
