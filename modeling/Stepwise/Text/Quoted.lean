import Stepwise.Text.Printable

/-!
Text shown inside quotes. The delimiter is the single quote, unless the text holds single quotes
and no double quote. The delimiter and the backslash are escaped, and so is every character that is
not printable, by the shortest of the three hexadecimal forms.
-/

namespace Stepwise.Text

/-- The last `width` hexadecimal digits of a number, in lower case. -/
def hexDigits : Nat → Nat → List Char
  | 0, _ => []
  | width + 1, n => hexDigits width (n / 16) ++ [Nat.digitChar (n % 16)]

/-- The escape of a character by its code point. -/
def codeEscape (c : Char) : List Char :=
  if c.toNat < 0x100 then '\\' :: 'x' :: hexDigits 2 c.toNat
  else if c.toNat < 0x10000 then '\\' :: 'u' :: hexDigits 4 c.toNat
  else '\\' :: 'U' :: hexDigits 8 c.toNat

/-- One character inside quotes. -/
def quotedChar (delimiter c : Char) : List Char :=
  if c = delimiter ∨ c = '\\' then ['\\', c]
  else if c = '\n' then ['\\', 'n']
  else if c = '\r' then ['\\', 'r']
  else if c = '\t' then ['\\', 't']
  else if isPrintable c then [c]
  else codeEscape c

/-- The delimiter that a text is quoted with. -/
def delimiterOf (cs : List Char) : Char :=
  if cs.contains '\'' && !cs.contains '"' then '"' else '\''

/-- A text with quotes around it. -/
def quote (cs : List Char) : List Char :=
  let d := delimiterOf cs
  d :: cs.flatMap (quotedChar d) ++ [d]

/-- A string with quotes around it. -/
def quoted (s : String) : String := String.ofList (quote s.toList)

end Stepwise.Text
