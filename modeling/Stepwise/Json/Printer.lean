import Stepwise.Number.Shortest
import Stepwise.Text.Lines
import Stepwise.Text.Quoted
import Stepwise.Value.Basic

/-!
The JSON text of a value, on one line or indented. Only the quote, the backslash and the control
characters below the space are escaped; the three numbers that JSON lacks are written as words.
-/

namespace Stepwise.Json

/-- One character of a string. -/
def escapeChar (c : Char) : List Char :=
  if c = '"' then ['\\', '"']
  else if c = '\\' then ['\\', '\\']
  else if c = '\n' then ['\\', 'n']
  else if c = '\r' then ['\\', 'r']
  else if c = '\t' then ['\\', 't']
  else if c.toNat = 0x0C then ['\\', 'f']
  else if c.toNat = 0x08 then ['\\', 'b']
  else if c.toNat < 0x20 then '\\' :: 'u' :: Text.hexDigits 4 c.toNat
  else [c]

/-- A string with its quotes. -/
def string (s : String) : List Char := '"' :: s.toList.flatMap escapeChar ++ ['"']

/-- A floating-point number. -/
def number : Double → List Char
  | .nan => "NaN".toList
  | .infinite s => (if s then "-Infinity" else "Infinity").toList
  | .finite s m e => (Double.finiteText s m e).toList

/-- An integer. -/
def integer (i : Int) : List Char :=
  if i < 0 then '-' :: Nat.toDigits 10 i.natAbs else Nat.toDigits 10 i.natAbs

mutual

/-- A value on one line. -/
def compact : Value → List Char
  | .null => "null".toList
  | .bool b => (if b then "true" else "false").toList
  | .int i => integer i
  | .double d => number d
  | .text s => string s
  | .list items => '[' :: compactItems items ++ [']']
  | .object members => '\x7b' :: compactMembers members ++ ['\x7d']
  | .handle label => string label

def compactItems : List Value → List Char
  | [] => []
  | [v] => compact v
  | v :: w :: vs => compact v ++ ", ".toList ++ compactItems (w :: vs)

def compactMembers : List (String × Value) → List Char
  | [] => []
  | [(k, v)] => string k ++ ": ".toList ++ compact v
  | (k, v) :: m :: ms =>
    string k ++ ": ".toList ++ compact v ++ ", ".toList ++ compactMembers (m :: ms)

end

/-- A line break followed by two spaces for each level. -/
def lineBreak (level : Nat) : List Char := '\n' :: List.replicate (2 * level) ' '

mutual

/-- A value over several lines, its items one level deeper than itself. -/
def spread (level : Nat) : Value → List Char
  | .list (v :: vs) =>
    '[' :: lineBreak (level + 1) ++ spreadItems (level + 1) (v :: vs) ++ lineBreak level ++ [']']
  | .object (m :: ms) =>
    '\x7b' :: lineBreak (level + 1) ++ spreadMembers (level + 1) (m :: ms) ++ lineBreak level ++
      ['\x7d']
  | v => compact v

def spreadItems (level : Nat) : List Value → List Char
  | [] => []
  | [v] => spread level v
  | v :: w :: vs => spread level v ++ ',' :: lineBreak level ++ spreadItems level (w :: vs)

def spreadMembers (level : Nat) : List (String × Value) → List Char
  | [] => []
  | [(k, v)] => string k ++ ": ".toList ++ spread level v
  | (k, v) :: m :: ms =>
    string k ++ ": ".toList ++ spread level v ++ ',' :: lineBreak level ++
      spreadMembers level (m :: ms)

end

/-- The JSON text of a value on one line. -/
def print (v : Value) : String := String.ofList (compact v)

/-- The JSON text of a value over several lines. -/
def printIndented (v : Value) : String := String.ofList (spread 0 v)

end Stepwise.Json
