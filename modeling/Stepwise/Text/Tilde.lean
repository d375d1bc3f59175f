import Stepwise.Text.Multibyte

/-!
Simplified Chinese in bytes of seven bits: a tilde and a brace lead into the characters of two bytes and
out of them, two tildes are a tilde, and a tilde before a line break is nothing.
-/

namespace Stepwise.Text.Tilde

/-- The names of the encoding. -/
def names : List String := ["hz", "hzgb", "hz_gb", "hz_gb_2312"]

/-- The bytes of a text, after those written so far; or the position of a character without a code,
and the character. `inside` tells whether two bytes stand for a character. -/
def written : Nat → Bool → List UInt8 → List Char → Except (Nat × Char) (List UInt8)
  | _, _, acc, [] => .ok acc.reverse
  | position, inside, acc, c :: rest =>
    if c.toNat < 0x80 then
      let acc := if inside then 0x7D :: 0x7E :: acc else acc
      let acc := c.toNat.toUInt8 :: acc
      written (position + 1) false (if c = '~' then 0x7E :: acc else acc) rest
    else
      match Multibyte.standardPlace? c with
      | some p =>
        let acc := if inside then acc else 0x7B :: 0x7E :: acc
        let code := Multibyte.bytes [0x21 + (p.1 - 32), 0x21 + (p.2 - 96)]
        written (position + 1) true (code.reverse ++ acc) rest
      | none => .error (position, c)

/-- The bytes of a text; or the position of a character without a code, and the character. -/
def encode (cs : List Char) : Except (Nat × Char) (List UInt8) := written 0 false [] cs

/-- The character of two bytes. -/
def double? (a b : Nat) : Option Char :=
  if 0x21 ≤ a ∧ a < 0x7F ∧ 0x21 ≤ b ∧ b < 0x7F then Multibyte.standardCharAt? (a - 1, b + 63) else none

/-- The text from a position on, after what was read so far; `inside` tells whether two bytes stand for
a character. -/
def read : Nat → Bool → List Char → List Nat → Except Flaw (List Char)
  | _, _, acc, [] => .ok acc.reverse
  | position, inside, acc, [a] =>
    if 0x80 ≤ a then .error ⟨position, 1, Multibyte.illegal⟩
    else if a = 0x7E ∨ inside then .error ⟨position, 1, Multibyte.incomplete⟩
    else .ok (Char.ofNat a :: acc).reverse
  | position, inside, acc, a :: b :: rest =>
    if a = 0x7E then
      if b = 0x7E ∧ !inside then read (position + 2) false ('~' :: acc) rest
      else if b = 0x7B ∧ !inside then read (position + 2) true acc rest
      else if b = 0x0A ∧ !inside then read (position + 2) false acc rest
      else if b = 0x7D ∧ inside then read (position + 2) false acc rest
      else .error ⟨position, 1, Multibyte.illegal⟩
    else if 0x80 ≤ a then .error ⟨position, 1, Multibyte.illegal⟩
    else if inside then
      match double? a b with
      | some c => read (position + 2) true (c :: acc) rest
      | none => .error ⟨position, 1, Multibyte.illegal⟩
    else read (position + 1) false (Char.ofNat a :: acc) (b :: rest)

/-- The text of some bytes. -/
def decode (bytes : List UInt8) : Except Flaw (List Char) := read 0 false [] (bytes.map UInt8.toNat)

end Stepwise.Text.Tilde
