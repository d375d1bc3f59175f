import Stepwise.Text.Flaw

/-!
Text in units of 16 and of 32 bits. Characters beyond the first plane take two units of 16 bits, a high
half and a low one. Reading stops at the first stretch that is no character.
-/

namespace Stepwise.Text.Units

/-- A number as bytes, in one of two orders. -/
def bytesOf (bigEndian : Bool) (width n : Nat) : List UInt8 :=
  let low := (List.range width).map fun i => (n / Nat.pow 256 i % 256).toUInt8
  if bigEndian then low.reverse else low

/-- The number of some bytes, in one of two orders. -/
def ofBytes (bigEndian : Bool) (bytes : List UInt8) : Nat :=
  (if bigEndian then bytes else bytes.reverse).foldl (fun acc b => acc * 256 + b.toNat) 0

/-- The units of 16 bits of a character. -/
def halves (c : Char) : List Nat :=
  let n := c.toNat
  if n < 0x10000 then [n] else [0xD800 + (n - 0x10000) / 0x400, 0xDC00 + (n - 0x10000) % 0x400]

/-- Whether a unit is the high half of a character. -/
def isHigh (n : Nat) : Bool := 0xD800 ≤ n && n < 0xDC00

/-- Whether a unit is the low half of a character. -/
def isLow (n : Nat) : Bool := 0xDC00 ≤ n && n < 0xE000

/-- The character of two halves. -/
def joined (high low : Nat) : Char := Char.ofNat (0x10000 + (high - 0xD800) * 0x400 + (low - 0xDC00))

/-- The text of units of 16 bits from a position on, after what was read so far. -/
def read16 (bigEndian : Bool) : Nat → List Char → List UInt8 → Except Flaw (List Char)
  | _, acc, [] => .ok acc.reverse
  | position, _, [_] => .error ⟨position, 1, "truncated data"⟩
  | position, acc, a :: b :: rest =>
    let n := ofBytes bigEndian [a, b]
    if isLow n then .error ⟨position, 2, "illegal encoding"⟩
    else if isHigh n then
      match rest with
      | c :: d :: after =>
        let m := ofBytes bigEndian [c, d]
        if isLow m then read16 bigEndian (position + 4) (joined n m :: acc) after
        else .error ⟨position, 2, "illegal UTF-16 surrogate"⟩
      | _ => .error ⟨position, 2 + rest.length, "unexpected end of data"⟩
    else read16 bigEndian (position + 2) (Char.ofNat n :: acc) rest

/-- The text of units of 32 bits from a position on, after what was read so far. -/
def read32 (bigEndian : Bool) : Nat → List Char → List UInt8 → Except Flaw (List Char)
  | position, acc, a :: b :: c :: d :: rest =>
    let n := ofBytes bigEndian [a, b, c, d]
    if isHigh n || isLow n then
      .error ⟨position, 4, "code point in surrogate code point range(0xd800, 0xe000)"⟩
    else if 0x110000 ≤ n then .error ⟨position, 4, "code point not in range(0x110000)"⟩
    else read32 bigEndian (position + 4) (Char.ofNat n :: acc) rest
  | _, acc, [] => .ok acc.reverse
  | position, _, rest => .error ⟨position, rest.length, "truncated data"⟩

/-- The text of units of a width, from a position on. -/
def read (bigEndian wide : Bool) (position : Nat) (bytes : List UInt8) : Except Flaw (List Char) :=
  if wide then read32 bigEndian position [] bytes else read16 bigEndian position [] bytes

end Stepwise.Text.Units
