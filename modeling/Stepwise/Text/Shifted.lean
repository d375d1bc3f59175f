import Stepwise.Text.Units

/-!
Text for channels of seven bits. ASCII stands for itself; a plus sign shifts into base 64, where
characters are numbers of 16 bits, and a minus sign or what is not in base 64 shifts back.
-/

namespace Stepwise.Text.Shifted

/-- The digits of base 64. -/
def digits : List Char :=
  "ABCDEFGHIJKLMNOPQRSTUVWXYZabcdefghijklmnopqrstuvwxyz0123456789+/".toList

/-- The digit of a number. -/
def digit (n : Nat) : Char := digits.getD (n % 64) 'A'

/-- The number of a digit. -/
def value? (c : Char) : Option Nat := digits.findIdx? (· == c)

/-- Whether a character stands for itself. -/
def isDirect (c : Char) : Bool :=
  c == '\t' || c == '\n' || c == '\r' ||
    (32 ≤ c.toNat && c.toNat < 126 && c != '+' && c != '\\')

/-- The bits of numbers, the highest one first. -/
def bitsOf (width : Nat) (n : Nat) : List Bool := (List.range width).reverse.map n.testBit

/-- The number that bits spell. -/
def ofBits (bs : List Bool) : Nat := bs.foldl (fun n b => 2 * n + b.toNat) 0

/-- Bits as digits of base 64, the last one filled up with zeros; at most `n` digits. -/
def spelled : Nat → List Bool → List Char
  | 0, _ => []
  | n + 1, bs =>
    if bs.isEmpty then []
    else digit (ofBits (bs.take 6) * Nat.pow 2 (6 - (bs.take 6).length)) :: spelled n (bs.drop 6)

/-- A run of characters that do not stand for themselves, and the sign after it if it needs one. -/
def run (cs : List Char) (next : Option Char) : List Char :=
  let bits := (cs.flatMap Units.halves).flatMap (bitsOf 16)
  let closed := match next with
    | none => true
    | some c => c == '-' || (value? c).isSome
  '+' :: spelled bits.length bits ++ (if closed then ['-'] else [])

/-- The characters by which at most `n` characters are spelled. -/
def spelling : Nat → List Char → List Char
  | 0, _ => []
  | _, [] => []
  | n + 1, c :: rest =>
    if isDirect c then c :: spelling n rest
    else if c = '+' then '+' :: '-' :: spelling n rest
    else
      let more := rest.takeWhile (!isDirect ·)
      let after := rest.drop more.length
      run (c :: more) after.head? ++ spelling n after

/-- The bytes of a text. -/
def encode (cs : List Char) : List UInt8 := (spelling cs.length cs).map fun c => c.toNat.toUInt8

/-- A run in base 64 that is being read: where it began, the bits that no character has taken, and the
high half that waits for a low one. -/
structure Shift where
  start : Nat
  bits : List Bool
  high : Option Nat
  deriving DecidableEq, Repr

namespace Shift

/-- A run after a unit of 16 bits, and the character that the unit completes. -/
def take (s : Shift) (unit : Nat) : Shift × List Char :=
  if Units.isHigh unit then ({ s with high := some unit }, [])
  else
    match s.high with
    | some h => ({ s with high := none }, [if Units.isLow unit then Units.joined h unit else Char.ofNat unit])
    | none => (s, [Char.ofNat unit])

/-- A run after one more digit, and the character that the digit completes. -/
def push (s : Shift) (digit : Nat) : Shift × List Char :=
  let bits := s.bits ++ bitsOf 6 digit
  if bits.length < 16 then ({ s with bits := bits }, [])
  else take { s with bits := bits.drop 16 } (ofBits (bits.take 16))

/-- Whether the bits that are left hold a digit that no character has taken. -/
def isPartial (s : Shift) : Bool := 6 ≤ s.bits.length

/-- Whether the bits that are left are not just filling. -/
def isPadded (s : Shift) : Bool := s.bits.any id

/-- A refusal of a run that ends before a position. -/
def refused (s : Shift) (stop : Nat) (reason : String) : Flaw := ⟨s.start, stop - s.start, reason⟩

end Shift

/-- The text from a position on, after what was read so far; `run?` is the run in base 64 that the
position is in. -/
def reading : Option Shift → Nat → List Char → List Char → Except Flaw (List Char)
  | none, _, acc, [] => .ok acc.reverse
  | some s, position, acc, [] =>
    if s.high.isSome || s.isPartial || s.isPadded then
      .error (s.refused position "unterminated shift sequence")
    else .ok acc.reverse
  | none, position, acc, '+' :: rest =>
    match rest with
    | '-' :: after => reading none (position + 2) ('+' :: acc) after
    | c :: after =>
      match value? c with
      | some v =>
        let next := Shift.push ⟨position, [], none⟩ v
        reading (some next.1) (position + 2) (next.2 ++ acc) after
      | none => .error ⟨position, 2, "ill-formed sequence"⟩
    | [] => .ok acc.reverse
  | run?, position, acc, c :: rest =>
    let plain :=
      if c.toNat < 128 then reading none (position + 1) (c :: acc) rest
      else .error ⟨position, 1, "unexpected special character"⟩
    match run?, value? c with
    | none, _ => plain
    | some s, some v =>
      let next := s.push v
      reading (some next.1) (position + 1) (next.2 ++ acc) rest
    | some s, none =>
      if s.isPartial then .error (s.refused (position + 1) "partial character in shift sequence")
      else if s.isPadded then .error (s.refused (position + 1) "non-zero padding bits in shift sequence")
      else if c = '-' then reading none (position + 1) acc rest
      else plain

/-- The text of some bytes. -/
def decode (bytes : List UInt8) : Except Flaw (List Char) :=
  reading none 0 [] (bytes.map fun b => Char.ofNat b.toNat)

end Stepwise.Text.Shifted
