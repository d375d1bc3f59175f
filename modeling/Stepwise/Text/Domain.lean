import Stepwise.Text.Case
import Stepwise.Text.Punycode
import Stepwise.Text.Quoted

/-!
Names of hosts: labels with points between them. A label with characters beyond ASCII is put into small
letters and spelled in letters, digits and hyphens. Only labels that a point ends are written.
-/

namespace Stepwise.Text.Domain

/-- What begins a spelled label. -/
def sign : List Char := "xn--".toList

/-- Whether a character ends a label. -/
def isPoint (c : Char) : Bool := c == '.' || c == '。' || c == '．' || c == '｡'

/-- Whether a character of a label is dropped. -/
def isDropped (c : Char) : Bool :=
  let n := c.toNat
  n == 0xAD || n == 0x34F || n == 0x1806 || (0x180B ≤ n && n ≤ 0x180D) || (0x200B ≤ n && n ≤ 0x200D) ||
    n == 0x2060 || (0xFE00 ≤ n && n ≤ 0xFE0F) || n == 0xFEFF

/-- A character of a label in small letters. -/
def folded (c : Char) : List Char :=
  if c = 'ß' then ['s', 's']
  else if c = 'ς' then ['σ']
  else if 0xFF01 ≤ c.toNat ∧ c.toNat ≤ 0xFF5E then [(Char.ofNat (c.toNat - 0xFEE0)).toLower]
  else small c

/-- Whether a character may not stand in a label. -/
def isRefused (c : Char) : Bool :=
  let n := c.toNat
  (0x80 ≤ n && n < 0xA0) || n == 0x6DD || n == 0x70F || n == 0x1680 || n == 0x180E ||
    (0x200E ≤ n && n ≤ 0x200F) || (0x2028 ≤ n && n ≤ 0x202E) || (0x2061 ≤ n && n ≤ 0x2063) ||
    (0x206A ≤ n && n ≤ 0x206F) || (0x2FF0 ≤ n && n ≤ 0x2FFB) || n == 0x340 || n == 0x341 ||
    (0xE000 ≤ n && n < 0xF900) || (0xFDD0 ≤ n && n ≤ 0xFDEF) || (0xFFF9 ≤ n && n ≤ 0xFFFF) ||
    0xE0000 ≤ n

/-- A label in its prepared form. -/
def prepared (label : List Char) : Except String (List Char) :=
  let cs := (label.filter (!isDropped ·)).flatMap folded
  match cs.find? isRefused with
  | some c => .error ("Invalid character " ++ quoted (String.singleton c))
  | none => .ok cs

/-- A label that is neither empty nor too long. -/
def bounded (label : List Char) : Except String (List Char) :=
  if 0 < label.length ∧ label.length < 64 then .ok label else .error "label empty or too long"

/-- Whether all characters are ASCII. -/
def isPlain (cs : List Char) : Bool := cs.all (·.toNat < 0x80)

/-- The form of a label in ASCII. -/
def spelled (label : List Char) : Except String (List Char) :=
  if isPlain label then bounded label
  else do
    let cs ← prepared label
    if isPlain cs then bounded cs
    else if sign.isPrefixOf cs then .error "Label starts with ACE prefix"
    else bounded (sign ++ Punycode.encode cs)

/-- The label of a form in ASCII. -/
def read (label : List Char) : Except String (List Char) :=
  if !sign.isPrefixOf label then .ok label
  else
    match Punycode.decode (Punycode.parts (label.drop sign.length)) with
    | .error e => .error ("decoding with 'punycode' codec failed (UnicodeError: " ++ e ++ ")")
    | .ok cs => do
      let again ← spelled cs
      if label.map Char.toLower = again then .ok cs
      else
        let shown (l : List Char) : String := "b" ++ String.ofList (quote l)
        .error ("('IDNA does not round-trip', " ++ shown label ++ ", " ++ shown again ++ ")")

/-- The labels of a name: the text between points, the last one being what no point ends. -/
def labels (isEnd : Char → Bool) : List Char → List (List Char)
  | [] => [[]]
  | c :: rest =>
    match labels isEnd rest with
    | [] => [[c]]
    | label :: more => if isEnd c then [] :: label :: more else (c :: label) :: more

/-- The characters for the finished labels of a name. -/
def encode (cs : List Char) : Except String (List Char) := do
  let done := (labels isPoint cs).dropLast
  let forms ← done.mapM spelled
  return forms.flatMap (· ++ ['.'])

/-- The name that some characters spell. -/
def decode (cs : List Char) : Except String (List Char) := do
  let all := labels (· == '.') cs
  let closed := all.getLast? == some []
  let names ← (if closed then all.dropLast else all).mapM read
  return List.intercalate ['.'] names ++ (if closed && !cs.isEmpty then ['.'] else [])

end Stepwise.Text.Domain
