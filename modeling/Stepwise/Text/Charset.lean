import Stepwise.Text.CodePage.Catalogue
import Stepwise.Text.Multibyte

/-!
Sets of characters with one or two bytes of seven bits each, which a text designates before it uses them.
-/

namespace Stepwise.Text

/-- A set of characters. The later standard of Japan is older or newer; from its first plane, an encoding
may take the pairs of characters before all else. -/
inductive Charset
  | ascii
  | roman
  | katakana
  | jis
  | jisFormer
  | jisSupplement
  | jisPairs (old : Bool)
  | jisFirst (old : Bool)
  | jisSecond (old : Bool)
  | guobiao
  | ks
  | latin
  | greek
  deriving DecidableEq, Repr

namespace Charset

/-- Whether a character of the set has two bytes. -/
def isDouble : Charset → Bool
  | ascii => false
  | roman => false
  | katakana => false
  | latin => false
  | greek => false
  | _ => true

/-- The letter that stands for the set. -/
def letter : Charset → Char
  | ascii => 'B'
  | roman => 'J'
  | katakana => 'I'
  | jis => 'B'
  | jisFormer => '@'
  | jisSupplement => 'D'
  | jisPairs old => if old then 'O' else 'Q'
  | jisFirst old => if old then 'O' else 'Q'
  | jisSecond _ => 'P'
  | guobiao => 'A'
  | ks => 'C'
  | latin => 'A'
  | greek => 'F'

/-- What a set is, as text designates it: its letter, and whether characters have two bytes. -/
def mark (s : Charset) : Char × Bool := (s.letter, s.isDouble)

/-- The bytes of a place. -/
def placeBytes (p : Nat × Nat) : List UInt8 := Multibyte.bytes [0x21 + p.1, 0x21 + p.2]

/-- The bytes of a character. -/
def bytesOf? (s : Charset) (c : Char) : Option (List UInt8) :=
  match s with
  | ascii => if c.toNat < 0x80 then some (Multibyte.bytes [c.toNat]) else none
  | roman => (Multibyte.keyboardSign? c).map fun n => Multibyte.bytes [n]
  | katakana => (Multibyte.narrowNumber? c).map fun n => Multibyte.bytes [n - 0x80]
  | jis => (Grid.jis.placeOf? c).map placeBytes
  | jisFormer => (Grid.jis.placeOf? c).map placeBytes
  | jisSupplement => (Grid.jisSupplement.placeOf? c).map placeBytes
  | jisPairs _ => none
  | jisFirst old =>
    if c = '～' then none
    else (Multibyte.laterPlace? old c).bind fun p => if p.1 then none else some (placeBytes p.2)
  | jisSecond old => (Multibyte.laterPlace? old c).bind fun p => if p.1 then some (placeBytes p.2) else none
  | guobiao => (Multibyte.standardPlace? c).map fun p => placeBytes (p.1 - 32, p.2 - 96)
  | ks => (Grid.ks.placeOf? c).map placeBytes
  | latin => none
  | greek => none

/-- Whether a character may be the first one of a pair of the set. -/
def waits (s : Charset) (c : Char) : Bool :=
  match s with
  | jisPairs _ => Multibyte.laterWaits c
  | jisFirst _ => Multibyte.laterWaits c
  | _ => false

/-- The bytes of a pair of characters. -/
def pairBytes? (s : Charset) (c d : Char) : Option (List UInt8) :=
  match s with
  | jisPairs _ => (Multibyte.laterPairPlace? c d).map placeBytes
  | jisFirst _ => (Multibyte.laterPairPlace? c d).map placeBytes
  | _ => none

/-- The characters of a place given by two bytes. -/
def atPlace? (a b : Nat) (find : Nat × Nat → Option (List Char)) : Option (List Char) :=
  if 0x21 ≤ a ∧ a < 0x7F ∧ 0x21 ≤ b ∧ b < 0x7F then find (a - 0x21, b - 0x21) else none

/-- The characters of two bytes in a set where a character has two, and of the first one elsewhere. -/
def charsOf? (s : Charset) (a b : Nat) : Option (List Char) :=
  let one (g : Grid) (p : Nat × Nat) : Option (List Char) := (g.charAt? p.1 p.2).map ([·])
  match s with
  | ascii => some [Char.ofNat a]
  | roman => some [if a = 0x5C then '¥' else if a = 0x7E then '‾' else Char.ofNat a]
  | katakana => (Multibyte.narrow? (a + 0x80)).map ([·])
  | jis => atPlace? a b (one Grid.jis)
  | jisFormer => atPlace? a b (one Grid.jis)
  | jisSupplement => atPlace? a b (one Grid.jisSupplement)
  | jisPairs old => atPlace? a b (Multibyte.laterCharsAt? old false)
  | jisFirst old => atPlace? a b (Multibyte.laterCharsAt? old false)
  | jisSecond _ => atPlace? a b (Multibyte.laterCharsAt? false true)
  | guobiao => atPlace? a b fun p => (Multibyte.standardCharAt? (p.1 + 32, p.2 + 96)).map ([·])
  | ks => atPlace? a b (one Grid.ks)
  | latin => some [Char.ofNat (a + 0x80)]
  | greek =>
    ((CodePage.all.find? (·.names.contains "iso8859_7")).bind (·.charOf? (a + 0x80).toUInt8)).map ([·])

end Charset

end Stepwise.Text
