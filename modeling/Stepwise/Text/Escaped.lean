import Stepwise.Text.Flaw
import Stepwise.Text.Names
import Stepwise.Text.Quoted

/-!
Text spelled with escapes: a backslash and the number of a character. A plain form escapes all that is
not printable ASCII, a raw one only what has no code in one byte; then a backslash that begins no number
is text itself.
-/

namespace Stepwise.Text.Escaped

/-- A character, escaped if it has to be. -/
def encodeChar (raw : Bool) (c : Char) : List Char :=
  if raw then (if c.toNat < 0x100 then [c] else codeEscape c)
  else if c = '\\' then ['\\', '\\']
  else if c = '\n' then ['\\', 'n']
  else if c = '\r' then ['\\', 'r']
  else if c = '\t' then ['\\', 't']
  else if 32 ≤ c.toNat ∧ c.toNat < 127 then [c]
  else codeEscape c

/-- The bytes of a text. -/
def encode (raw : Bool) (cs : List Char) : List UInt8 :=
  (cs.flatMap (encodeChar raw)).map fun c => c.toNat.toUInt8

/-- The value of a digit in base 16. -/
def hexValue? (c : Char) : Option Nat :=
  if c.isDigit then some (c.toNat - 48)
  else if 'a' ≤ c.toLower ∧ c.toLower ≤ 'f' then some (c.toLower.toNat - 87)
  else none

/-- What the letter after a backslash stands for, if it stands for a character by itself. -/
def simple? (c : Char) : Option Char :=
  if c = '\\' ∨ c = '\'' ∨ c = '"' then some c
  else if c = 'a' then some '\x07'
  else if c = 'b' then some '\x08'
  else if c = 't' then some '\t'
  else if c = 'n' then some '\n'
  else if c = 'v' then some '\x0b'
  else if c = 'f' then some '\x0c'
  else if c = 'r' then some '\r'
  else none

/-- How many digits a number has after a letter. -/
def width? (c : Char) : Option Nat :=
  if c = 'x' then some 2
  else if c = 'u' then some 4
  else if c = 'U' then some 8
  else none

/-- The number at the beginning of a text, of so many digits: its value and what follows it, or the
count of the digits that are there. -/
def number : Nat → Nat → Nat → List Char → Except Nat (Nat × List Char)
  | 0, value, _, cs => .ok (value, cs)
  | _ + 1, _, found, [] => .error found
  | n + 1, value, found, c :: cs =>
    match hexValue? c with
    | some v => number n (value * 16 + v) (found + 1) cs
    | none => .error found

/-- The character whose name stands in braces at the beginning of a text, and how long that is; or how
much of the text is wrong, and why. -/
def named : List Char → Except (Nat × String) (Char × Nat)
  | '\x7b' :: rest =>
    let name := rest.takeWhile (· != '\x7d')
    if name.isEmpty || name.length = rest.length then .error (1 + name.length, malformed)
    else
      match Names.charOf? name with
      | some c => .ok (c, 2 + name.length)
      | none => .error (2 + name.length, "unknown Unicode character name")
  | _ => .error (0, malformed)
where
  /-- What is said of a name that is not in braces. -/
  malformed : String := "malformed \\N character escape"

/-- The characters of a text with escapes, at most `n` of them, after those read so far. -/
def characters (raw : Bool) : Nat → Nat → List Char → List Char → Except Flaw (List Char)
  | 0, _, acc, _ => .ok acc.reverse
  | _, _, acc, [] => .ok acc.reverse
  | n + 1, position, acc, '\\' :: rest =>
    match rest with
    | [] => if raw then .ok ('\\' :: acc).reverse else .error ⟨position, 1, "\\ at end of string"⟩
    | c :: after =>
      let literally := characters raw n (position + 2) (c :: '\\' :: acc) after
      match if raw ∧ c = 'x' then none else width? c with
      | some width =>
        let shape := "\\" ++ String.ofList (c :: List.replicate width 'X')
        match number width 0 0 after with
        | .error found => .error ⟨position, 2 + found, "truncated " ++ shape ++ " escape"⟩
        | .ok (value, after) =>
          if value.isValidChar then characters raw n (position + 2 + width) (Char.ofNat value :: acc) after
          else
            .error ⟨position, 2 + width, if raw then "\\Uxxxxxxxx out of range" else "illegal Unicode character"⟩
      | none =>
        if raw then literally
        else if c = '\n' then characters raw n (position + 2) acc after
        else if c = 'N' then
          match named after with
          | .ok (named, used) =>
            characters raw n (position + 2 + used) (named :: acc) (after.drop used)
          | .error (length, reason) => .error ⟨position, 2 + length, reason⟩
        else
          match simple? c with
          | some d => characters raw n (position + 2) (d :: acc) after
          | none =>
            let digits := (rest.takeWhile fun d => '0' ≤ d && d ≤ '7').take 3
            if digits.isEmpty then literally
            else
              let value := digits.foldl (fun v d => v * 8 + (d.toNat - 48)) 0
              characters raw n (position + 1 + digits.length) (Char.ofNat value :: acc)
                (rest.drop digits.length)
  | n + 1, position, acc, c :: rest => characters raw n (position + 1) (c :: acc) rest

/-- The text of some bytes. -/
def decode (raw : Bool) (bytes : List UInt8) : Except Flaw (List Char) :=
  characters raw bytes.length 0 [] (bytes.map fun b => Char.ofNat b.toNat)

end Stepwise.Text.Escaped
