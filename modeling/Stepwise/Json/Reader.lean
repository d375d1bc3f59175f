import Stepwise.Number.Numeral
import Stepwise.Value.Basic

/-!
Reading JSON text. Beside the standard grammar the words `NaN`, `Infinity` and `-Infinity` are
numbers; a repeated member keeps its first place and its last value. Reading stops at the first
fault from the left: bad grammar, nesting beyond the limit, or an integer that is too long. Bad
grammar is told with its place, as the number of characters that are left there.
-/

namespace Stepwise.Json

/-- What is wrong with the grammar of a text. -/
inductive Complaint
  | noValue
  | noName
  | noColon
  | noComma
  | openText
  | control
  | badEscape
  | badCode
  | extra
  | mark
  deriving DecidableEq, Repr

/-- A complaint in words. -/
def Complaint.text : Complaint → String
  | noValue => "Expecting value"
  | noName => "Expecting property name enclosed in double quotes"
  | noColon => "Expecting ':' delimiter"
  | noComma => "Expecting ',' delimiter"
  | openText => "Unterminated string starting at"
  | control => "Invalid control character at"
  | badEscape => "Invalid \\escape"
  | badCode => "Invalid \\uXXXX escape"
  | extra => "Extra data"
  | mark => "Unexpected UTF-8 BOM (decode using utf-8-sig)"

/-- Why a text is not read. -/
inductive Failure
  | malformed (what : Complaint) (left : Nat)
  | tooDeep
  | overlong (o : Overlong)
  deriving DecidableEq, Repr

/-- The deepest nesting that is read. -/
def depthLimit : Nat := 2000

/-- The blanks between tokens. -/
def isSpace (c : Char) : Bool := c == ' ' || c == '\n' || c == '\r' || c == '\t'

def skipSpace (cs : List Char) : List Char := cs.dropWhile isSpace

/-- The value of a hexadecimal digit. -/
def hexValue? (c : Char) : Option Nat :=
  let n := c.toNat
  if 0x30 ≤ n ∧ n ≤ 0x39 then some (n - 0x30)
  else if 0x41 ≤ n ∧ n ≤ 0x46 then some (n - 0x37)
  else if 0x61 ≤ n ∧ n ≤ 0x66 then some (n - 0x57)
  else none

/-- The value of four hexadecimal digits. -/
def hex4? (a b c d : Char) : Option Nat :=
  match hexValue? a, hexValue? b, hexValue? c, hexValue? d with
  | some a, some b, some c, some d => some (((a * 16 + b) * 16 + c) * 16 + d)
  | _, _, _, _ => none

/-- The character of a one-letter escape. -/
def shortEscape? (c : Char) : Option Char :=
  if c = '"' ∨ c = '\\' ∨ c = '/' then some c
  else if c = 'n' then some '\n'
  else if c = 'r' then some '\r'
  else if c = 't' then some '\t'
  else if c = 'f' then some (Char.ofNat 0x0C)
  else if c = 'b' then some (Char.ofNat 0x08)
  else none

/-- The character of two halves of a pair of escapes. -/
def paired? (high low : Nat) : Option Char :=
  if 0xD800 ≤ high ∧ high < 0xDC00 ∧ 0xDC00 ≤ low ∧ low < 0xE000 then
    some (Char.ofNat (0x10000 + (high - 0xD800) * 0x400 + (low - 0xDC00)))
  else none

/-- The character of a single escape; half of a pair becomes the replacement character. -/
def single (n : Nat) : Char := if 0xD800 ≤ n ∧ n < 0xE000 then Char.ofNat 0xFFFD else Char.ofNat n

/-- The code units of a string, and what follows it. -/
abbrev Units := Except Failure (List Nat × List Char)

/-- One more code unit in front of a string that was read. -/
def consUnit (n : Nat) : Units → Units
  | .ok (units, rest) => .ok (n :: units, rest)
  | .error e => .error e

/-- The code units up to the closing quote, and what follows it; at the opening quote `start`
characters were left. -/
def stringUnits (start : Nat) : List Char → Units
  | [] => .error (.malformed .openText start)
  | '"' :: rest => .ok ([], rest)
  | ['\\'] => .error (.malformed .openText start)
  | '\\' :: 'u' :: a :: b :: c :: d :: rest =>
    match hex4? a b c d with
    | some n =>
      if rest.isEmpty then .error (.malformed .badCode 5) else consUnit n (stringUnits start rest)
    | none => .error (.malformed .badCode (rest.length + 5))
  | '\\' :: c :: rest =>
    match shortEscape? c with
    | some ch => consUnit ch.toNat (stringUnits start rest)
    | none =>
      if c = 'u' then .error (.malformed .badCode (rest.length + 1))
      else .error (.malformed .badEscape (rest.length + 2))
  | c :: rest =>
    if c.toNat < 0x20 then .error (.malformed .control (rest.length + 1))
    else consUnit c.toNat (stringUnits start rest)

/-- The characters that code units spell; two halves of a pair make one character. -/
def joinUnits : List Nat → List Char
  | [] => []
  | [n] => [single n]
  | n :: m :: rest =>
    match paired? n m with
    | some c => c :: joinUnits rest
    | none => single n :: joinUnits (m :: rest)

/-- The characters after an opening quote up to the closing one, and what follows it. -/
def stringBody (cs : List Char) : Except Failure (List Char × List Char) :=
  (stringUnits (cs.length + 1) cs).map fun p => (joinUnits p.1, p.2)

/-- A run of digits and what follows it. -/
def digitRun (cs : List Char) : List Char × List Char :=
  (cs.takeWhile Char.isDigit, cs.dropWhile Char.isDigit)

/-- The fraction digits, if a point and at least one digit are next. -/
def fraction : List Char → Option (List Char × List Char)
  | '.' :: rest => if (digitRun rest).1.isEmpty then none else some (digitRun rest)
  | _ => none

/-- The exponent, if a marker, an optional sign and at least one digit are next. -/
def exponent : List Char → Option (Int × List Char)
  | c :: rest =>
    if c = 'e' ∨ c = 'E' then
      let negative := rest.head? == some '-'
      let body := if negative || rest.head? == some '+' then rest.drop 1 else rest
      let run := digitRun body
      if run.1.isEmpty then none
      else some (if negative then -(Text.numeral run.1 : Int) else Text.numeral run.1, run.2)
    else none
  | [] => none

/-- The digits of an integer: a lone zero, or a run that does not begin with zero. -/
def wholeDigits : List Char → Option (List Char × List Char)
  | '0' :: rest => some (['0'], rest)
  | cs => if (digitRun cs).1.isEmpty then none else some (digitRun cs)

/-- A number after its sign, `start` characters being left in front of it. It is an integer unless a
fraction or an exponent follows. -/
def unsigned (start : Nat) (negative : Bool) (cs : List Char) : Except Failure (Value × List Char) :=
  match wholeDigits cs with
  | none => .error (.malformed .noValue start)
  | some (whole, rest) =>
    match fraction rest, exponent ((fraction rest).map (·.2) |>.getD rest) with
    | none, none =>
      match Numeral.read whole with
      | .ok n => .ok (.int (if negative then -n else n), rest)
      | .error o => .error (.overlong o)
    | some (digits, tail), none =>
      .ok (.double (.ofDecimal negative (Text.numeral (whole ++ digits)) (-digits.length)), tail)
    | none, some (e, tail) => .ok (.double (.ofDecimal negative (Text.numeral whole) e), tail)
    | some (digits, _), some (e, tail) =>
      .ok (.double (.ofDecimal negative (Text.numeral (whole ++ digits)) (e - digits.length)), tail)

/-- What follows a word, if the text begins with it. -/
def after? (word : String) (cs : List Char) : Option (List Char) :=
  if word.toList.isPrefixOf cs then some (cs.drop word.toList.length) else none

/-- The words that stand for values. -/
def words : List (String × Value) :=
  [("null", .null), ("true", .bool true), ("false", .bool false), ("NaN", .double .nan),
    ("Infinity", .double (.infinite false)), ("-Infinity", .double (.infinite true))]

/-- A value written as a word or a number. -/
def atom (cs : List Char) : Except Failure (Value × List Char) :=
  match words.findSome? fun w => (after? w.1 cs).map fun rest => (w.2, rest) with
  | some r => .ok r
  | none =>
    match cs with
    | '-' :: rest => unsigned cs.length true rest
    | _ => unsigned cs.length false cs

mutual

/-- The value that the text begins with, at a nesting depth. -/
def value (fuel depth : Nat) (cs : List Char) : Except Failure (Value × List Char) :=
  match fuel with
  | 0 => .error (.malformed .noValue cs.length)
  | fuel + 1 =>
    match cs with
    | '"' :: rest => (stringBody rest).map fun p => (.text (String.ofList p.1), p.2)
    | '[' :: rest =>
      if depthLimit ≤ depth then .error .tooDeep
      else
        match skipSpace rest with
        | ']' :: tail => .ok (.list [], tail)
        | body =>
          match items fuel (depth + 1) body with
          | .ok (vs, tail) => .ok (.list vs, tail)
          | .error e => .error e
    | '\x7b' :: rest =>
      if depthLimit ≤ depth then .error .tooDeep
      else
        match skipSpace rest with
        | '\x7d' :: tail => .ok (.object [], tail)
        | body =>
          match members fuel (depth + 1) [] body with
          | .ok (ms, tail) => .ok (.object ms, tail)
          | .error e => .error e
    | _ => atom cs

/-- The items of a list up to its closing bracket, at least one. -/
def items (fuel depth : Nat) (cs : List Char) : Except Failure (List Value × List Char) :=
  match fuel with
  | 0 => .error (.malformed .noValue cs.length)
  | fuel + 1 =>
    match value fuel depth cs with
    | .error e => .error e
    | .ok (v, rest) =>
      match skipSpace rest with
      | ',' :: tail =>
        match items fuel depth (skipSpace tail) with
        | .ok (vs, tail) => .ok (v :: vs, tail)
        | .error e => .error e
      | ']' :: tail => .ok ([v], tail)
      | rest => .error (.malformed .noComma rest.length)

/-- The members of an object up to its closing brace, at least one, after those already read. -/
def members (fuel depth : Nat) (read : List (String × Value)) (cs : List Char) :
    Except Failure (List (String × Value) × List Char) :=
  match fuel with
  | 0 => .error (.malformed .noName cs.length)
  | fuel + 1 =>
    match cs with
    | '"' :: rest =>
      match stringBody rest with
      | .error e => .error e
      | .ok (key, rest) =>
        match skipSpace rest with
        | ':' :: rest =>
          match value fuel depth (skipSpace rest) with
          | .error e => .error e
          | .ok (v, rest) =>
            let read := Value.assign (String.ofList key) v read
            match skipSpace rest with
            | ',' :: tail => members fuel depth read (skipSpace tail)
            | '\x7d' :: tail => .ok (read, tail)
            | rest => .error (.malformed .noComma rest.length)
        | rest => .error (.malformed .noColon rest.length)
    | _ => .error (.malformed .noName cs.length)

end

/-- The value that a whole text spells. -/
def read (cs : List Char) : Except Failure Value :=
  if cs.head?.map (·.toNat) = some 0xFEFF then .error (.malformed .mark cs.length)
  else
    match value (2 * cs.length + 2) 0 (skipSpace cs) with
    | .error e => .error e
    | .ok (v, rest) =>
      let rest := skipSpace rest
      if rest.isEmpty then .ok v else .error (.malformed .extra rest.length)

/-- The place in a text after `n` characters, in words: its line and column, which count from one,
and the number itself. -/
def placeText (cs : List Char) (n : Nat) : String :=
  let before := (cs.take n).reverse
  let column := (before.takeWhile (· != '\n')).length + 1
  "line " ++ toString (before.count '\n' + 1) ++ " column " ++ toString column ++ " (char " ++
    toString n ++ ")"

/-- A complaint about a text with its place. -/
def Complaint.message (what : Complaint) (cs : List Char) (left : Nat) : String :=
  what.text ++ ": " ++ placeText cs (cs.length - left)

/-- The value that a whole string spells. -/
def parse (s : String) : Except Failure Value := read s.toList

end Stepwise.Json
