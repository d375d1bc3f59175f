import Stepwise.Text.Charset

/-!
Text in bytes of seven bits that designates the sets of its characters: an escape sequence puts a set in
one of the places G0, G1 and G2. G0 is in use until a shift to G1, and G2 for one character after another
sequence. An escape that begins nothing of this kind is text up to its last letter.
-/

namespace Stepwise.Text

/-- An encoding by designations: its names, its sets in order of preference, whether the sets stand in
G1, to which text then shifts, and whether G2 is in use. -/
structure Designated where
  names : List String
  sets : List Charset
  shifts : Bool
  second : Bool
  deriving DecidableEq, Repr

namespace Designated

/-- All of them. -/
def all : List Designated :=
  [⟨["iso2022_jp", "csiso2022jp", "iso2022jp", "iso_2022_jp"], [.jis, .roman, .jisFormer], false, false⟩,
    ⟨["iso2022_jp_1", "iso2022jp_1", "iso_2022_jp_1"], [.jis, .jisSupplement, .roman, .jisFormer], false,
      false⟩,
    ⟨["iso2022_jp_2", "iso2022jp_2", "iso_2022_jp_2"],
      [.jis, .jisSupplement, .ks, .guobiao, .roman, .jisFormer, .latin, .greek], false, true⟩,
    ⟨["iso2022_jp_2004", "iso2022jp_2004", "iso_2022_jp_2004"],
      [.jisPairs false, .jis, .jisFirst false, .jisSecond false], false, false⟩,
    ⟨["iso2022_jp_3", "iso2022jp_3", "iso_2022_jp_3"],
      [.jisPairs true, .jis, .jisFirst true, .jisSecond true], false, false⟩,
    ⟨["iso2022_jp_ext", "iso2022jp_ext", "iso_2022_jp_ext"],
      [.jis, .jisSupplement, .roman, .katakana, .jisFormer], false, false⟩,
    ⟨["iso2022_kr", "csiso2022kr", "iso2022kr", "iso_2022_kr"], [.ks], true, false⟩]

/-- The usual name. -/
def name (d : Designated) : String := d.names.headD ""

/-- The bytes of ASCII characters. -/
def ascii (s : String) : List UInt8 := s.toList.map fun c => c.toNat.toUInt8

/-! ### Writing -/

/-- What is designated while text is written: the marks of the sets in G0 and G1, if they are known, and
whether G1 is in use. -/
structure Pen where
  zero : Option (Char × Bool)
  one : Option (Char × Bool)
  shifted : Bool
  deriving DecidableEq, Repr

/-- The state at the start of a file, or behind the text of a file. -/
def Pen.start (atStart : Bool) : Pen :=
  let mark := if atStart then some Charset.ascii.mark else none
  ⟨mark, mark, false⟩

/-- The sequence that designates a set. -/
def designation (d : Designated) (s : Charset) : String :=
  let place := if d.shifts then ")" else "("
  let double := if s.isDouble then (if s.mark == Charset.jis.mark then "$" else "$" ++ place) else place
  "\x1b" ++ double ++ String.singleton s.letter

/-- The bytes of text in a set, after its designation and a shift where they are due. -/
def draw (d : Designated) (p : Pen) (s : Charset) (bytes : List UInt8) : Pen × List UInt8 :=
  if d.shifts && s != .ascii then
    let due := if p.one == some s.mark then "" else d.designation s
    let shift := if p.shifted then "" else "\x0e"
    ({ p with one := some s.mark, shifted := true }, ascii (due ++ shift) ++ bytes)
  else
    let due := if p.zero == some s.mark then "" else
      if s == .ascii then "\x1b(B" else d.designation s
    let shift := if p.shifted then "\x0f" else ""
    ({ p with zero := some s.mark, shifted := false },
      ascii (if s == .ascii then due ++ shift else shift ++ due) ++ bytes)

/-- The first set that has a character, or a pair of it and the next one: with the bytes, and whether the
pair is taken. -/
def found? (d : Designated) (c : Char) (next : Option Char) : Option (Charset × List UInt8 × Bool) :=
  d.sets.findSome? fun s =>
    match next.bind (s.pairBytes? c) with
    | some bs => some (s, bs, true)
    | none => (s.bytesOf? c).map fun bs => (s, bs, false)

/-- The bytes of a text, after those written so far; or the position of a character without a code,
and the character. A last character that may begin a pair is not written. -/
def written (d : Designated) : Nat → Pen → List UInt8 → List Char → Except (Nat × Char) (List UInt8)
  | _, _, acc, [] => .ok acc.reverse
  | position, p, acc, c :: rest =>
    if c.toNat < 0x80 then
      let drawn := d.draw p .ascii (Multibyte.bytes [c.toNat])
      written d (position + 1) drawn.1 (drawn.2.reverse ++ acc) rest
    else if rest.isEmpty && d.sets.any (·.waits c) then .ok acc.reverse
    else
      match d.found? c rest.head?, rest with
      | some (s, bs, true), _ :: rest =>
        let drawn := d.draw p s bs
        written d (position + 2) drawn.1 (drawn.2.reverse ++ acc) rest
      | some (s, bs, _), rest =>
        let drawn := d.draw p s bs
        written d (position + 1) drawn.1 (drawn.2.reverse ++ acc) rest
      | none, _ => .error (position, c)

/-- The bytes of a text at the start of a file, or behind the text of a file; or the position of a
character without a code, and the character. -/
def encode (d : Designated) (atStart : Bool) (cs : List Char) : Except (Nat × Char) (List UInt8) :=
  d.written 0 (Pen.start atStart) [] cs

/-! ### Reading -/

/-- What is designated while text is read, whether G1 is in use, and whether an escape that begins
nothing known is being read. -/
structure Reading where
  zero : Charset
  one : Charset
  two : Charset
  shifted : Bool
  through : Bool
  deriving DecidableEq, Repr

/-- The state before anything is read. -/
def Reading.start : Reading := ⟨.ascii, .ascii, .ascii, false, false⟩

/-- Whether a byte ends an escape sequence. -/
def isLast (b : Nat) : Bool := 0x40 ≤ b && b ≤ 0x5A

/-- How many bytes an escape sequence has, the next byte being at an index: none if the bytes end before
it does, and 0 if it is too long. In the sequences of Japan, one may stand before another. -/
def lengthFrom (d : Designated) : Nat → Nat → List Nat → Option Nat
  | 0, _, _ => some 0
  | n + 1, index, bytes =>
    if 16 ≤ index then some 0
    else
      match bytes with
      | [] => none
      | b :: rest =>
        if isLast b then some (index + 1)
        else
          match d.shifts, b, rest with
          | false, 0x26, 0x40 :: more => lengthFrom d n (index + 3) (more.drop 1)
          | _, _, _ => lengthFrom d n (index + 1) rest

/-- The set that an escape sequence names, and the place where it puts it; the bytes are those behind
the escape itself. -/
def named? (d : Designated) (bytes : List Nat) : Option (Nat × Charset) :=
  let set? (last : Nat) (double : Bool) : Option Charset :=
    (Charset.ascii :: d.sets).find? fun s => s.mark == (Char.ofNat last, double)
  match bytes with
  | [0x24, last] => (set? last true).map (0, ·)
  | [0x28, last] => (set? last false).map (0, ·)
  | [0x29, last] => (set? last false).map (1, ·)
  | [0x2E, last] => if d.second then (set? last false).map (2, ·) else none
  | [0x24, 0x28, last] => (set? last true).map (0, ·)
  | [0x24, 0x29, last] => (set? last true).map (1, ·)
  | [_, _, 0x1B, 0x24, 0x42] => if d.shifts then none else (set? 0x42 true).map (0, ·)
  | _ => none

/-- The state after a set was put in a place. -/
def Reading.put (r : Reading) (place : Nat) (s : Charset) : Reading :=
  if place = 0 then { r with zero := s }
  else if place = 1 then { r with one := s }
  else { r with two := s }

/-- One step of reading: the state after it, the characters that are read and the bytes that are used;
or how many bytes are wrong, none if they end too early. -/
def step (d : Designated) (r : Reading) (a : Nat) (rest : List Nat) :
    Except (Option Nat) (Reading × List Char × Nat) :=
  let plain := .ok (r, [Char.ofNat a], 1)
  if r.through then .ok ({ r with through := !isLast a }, [Char.ofNat a], 1)
  else if a = 0x1B then
    match rest with
    | [] => .error none
    | b :: more =>
      if b = 0x28 ∨ b = 0x29 ∨ b = 0x24 ∨ b = 0x2E ∨ b = 0x26 then
        match lengthFrom d 16 1 rest with
        | none => .error none
        | some 0 => .error (some 1)
        | some n =>
          match d.named? (rest.take (n - 1)) with
          | some (place, s) => .ok (r.put place s, [], n)
          | none => .error (some n)
      else if d.second ∧ b = 0x4E then
        match more with
        | [] => .error none
        | c :: _ =>
          match if c < 0x80 then r.two.charsOf? c 0 else none with
          | some cs => .ok (r, cs, 3)
          | none => .error (some 3)
      else .ok ({ r with through := true }, ['\x1b'], 1)
  else if d.shifts ∧ (a = 0x0F ∨ a = 0x0E) then .ok ({ r with shifted := a == 0x0E }, [], 1)
  else if a = 0x0A then .ok ({ r with shifted := false }, ['\n'], 1)
  else if a < 0x20 then plain
  else if 0x80 ≤ a then .error (some 1)
  else
    let s := if r.shifted then r.one else r.zero
    if s.isDouble then
      match rest with
      | [] => .error none
      | b :: _ =>
        match s.charsOf? a b with
        | some cs => .ok (r, cs, 2)
        | none => .error (some 2)
    else
      match if s = .latin ∨ s = .greek then none else s.charsOf? a 0 with
      | some cs => .ok (r, cs, 1)
      | none => .error (some 1)

/-- The characters of at most `n` of some bytes from a position on, after those read so far. -/
def characters (d : Designated) : Nat → Nat → Reading → List Char → List Nat → Except Flaw (List Char)
  | 0, _, _, acc, _ => .ok acc.reverse
  | _, _, _, acc, [] => .ok acc.reverse
  | n + 1, position, r, acc, a :: rest =>
    match d.step r a rest with
    | .ok (r, cs, used) => characters d n (position + used) r (cs.reverse ++ acc) (rest.drop (used - 1))
    | .error (some length) => .error ⟨position, length, Multibyte.illegal⟩
    | .error none => .error ⟨position, rest.length + 1, Multibyte.incomplete⟩

/-- The text of some bytes. -/
def decode (d : Designated) (bytes : List UInt8) : Except Flaw (List Char) :=
  d.characters bytes.length 0 Reading.start [] (bytes.map UInt8.toNat)

end Designated

end Stepwise.Text
