import Stepwise.Text.Flaw
import Stepwise.Text.Multibyte.Japanese
import Stepwise.Text.Multibyte.Korean
import Stepwise.Text.Multibyte.Simplified
import Stepwise.Text.Multibyte.Traditional

/-!
Encodings of East Asia, in which ASCII has one byte for each character and the characters of a table have
two or more. A row and a cell of the table become a leading and a trailing byte. Some places hold a pair
of characters: a character that may begin one is not written before the next one is known.
-/

namespace Stepwise.Text

/-- An encoding with several bytes for a character. The later standard of Japan is older or newer. -/
inductive Multibyte
  | guobiao
  | guobiaoExtended
  | guobiaoFull
  | five
  | fiveVendor
  | fiveHongKong
  | shifted
  | shiftedVendor
  | shiftedLater (old : Bool)
  | japanese
  | japaneseLater (old : Bool)
  | korean
  | koreanVendor
  | koreanFields
  deriving DecidableEq, Repr

namespace Multibyte

/-- All of them. -/
def all : List Multibyte :=
  [guobiao, guobiaoExtended, guobiaoFull, five, fiveVendor, fiveHongKong, shifted, shiftedVendor,
    shiftedLater false, shiftedLater true, japanese, japaneseLater false, japaneseLater true, korean,
    koreanVendor, koreanFields]

/-- The names of an encoding, the usual one first. -/
def names : Multibyte → List String
  | guobiao => ["gb2312", "chinese", "csiso58gb231280", "euc_cn", "euccn", "eucgb2312_cn", "gb2312_1980",
      "gb2312_80", "iso_ir_58", "x_mac_simp_chinese"]
  | guobiaoExtended => ["gbk", "936", "cp936", "ms936"]
  | guobiaoFull => ["gb18030", "gb18030_2000"]
  | five => ["big5", "big5_tw", "csbig5", "x_mac_trad_chinese"]
  | fiveVendor => ["cp950", "950", "ms950"]
  | fiveHongKong => ["big5hkscs", "big5_hkscs", "hkscs"]
  | shifted => ["shift_jis", "csshiftjis", "shiftjis", "sjis", "s_jis", "x_mac_japanese"]
  | shiftedVendor => ["cp932", "932", "ms932", "mskanji", "ms_kanji"]
  | shiftedLater false => ["shift_jis_2004", "shiftjis2004", "sjis_2004", "s_jis_2004"]
  | shiftedLater true => ["shift_jisx0213", "shiftjisx0213", "sjisx0213", "s_jisx0213"]
  | japanese => ["euc_jp", "eucjp", "ujis", "u_jis"]
  | japaneseLater false => ["euc_jis_2004", "jisx0213", "eucjis2004", "euc_jis2004"]
  | japaneseLater true => ["euc_jisx0213", "eucjisx0213"]
  | korean => ["euc_kr", "euckr", "korean", "ksc5601", "ks_c_5601", "ks_c_5601_1987", "ksx1001",
      "ks_x_1001", "x_mac_korean"]
  | koreanVendor => ["cp949", "949", "ms949", "uhc"]
  | koreanFields => ["johab", "cp1361", "ms1361"]

/-- The usual name. -/
def name (m : Multibyte) : String := m.names.headD ""

/-- The bytes of a character. -/
def bytesOf? (m : Multibyte) (c : Char) : Option (List UInt8) :=
  match m with
  | shiftedLater old => laterShiftedBytes? old c
  | _ => if c.toNat < 0x80 then some (bytes [c.toNat]) else beyond
where
  /-- The bytes of a character that is not ASCII. -/
  beyond : Option (List UInt8) :=
    match m with
    | guobiao => (standardPlace? c).map guobiaoBytes
    | guobiaoExtended => (Grid.guobiao.placeOf? c).map guobiaoBytes
    | guobiaoFull => some (fullBytes c)
    | five => (Grid.five.lastPlaceOf? c).map fiveBytes
    | fiveVendor => (fiveVendorPlace? c).map fiveBytes
    | fiveHongKong => hongKongBytes? c
    | shifted =>
      match narrowNumber? c, keyboardSign? c with
      | some n, _ => some (bytes [n])
      | none, some n => some (bytes [n])
      | none, none => (Grid.jis.placeOf? c).map shiftedBytes
    | shiftedVendor => shiftedVendorBytes? c
    | shiftedLater old => laterShiftedBytes? old c
    | japanese => japaneseBytes? c
    | japaneseLater old => laterBytes? old c
    | korean =>
      match Grid.ks.placeOf? c with
      | some p => some (highBytes p)
      | none => (syllable? c).map lettersOf
    | koreanVendor =>
      match Grid.ks.placeOf? c with
      | some p => some (highBytes p)
      | none => (syllable? c).map fun _ => outerBytes (missingBelow syllables 0xAC00 c.toNat)
    | koreanFields => fieldBytes? c

/-- Whether a character may be the first one of a pair. -/
def waits (m : Multibyte) (c : Char) : Bool :=
  match m with
  | fiveHongKong => hongKongWaits c
  | shiftedLater _ => laterWaits c
  | japaneseLater _ => laterWaits c
  | _ => false

/-- The bytes of a pair of characters. -/
def pairBytes? (m : Multibyte) (c d : Char) : Option (List UInt8) :=
  match m with
  | fiveHongKong => hongKongPairBytes? c d
  | shiftedLater _ => (laterPairPlace? c d).map shiftedBytes
  | japaneseLater _ => (laterPairPlace? c d).map highBytes
  | _ => none

/-- The character with a byte of its own. -/
def single? (m : Multibyte) (a : Nat) : Option Char :=
  match m with
  | shiftedLater _ =>
    if a = 0x5C then some '¥' else if a = 0x7E then some '‾' else common
  | shifted => common
  | shiftedVendor =>
    if a = 0x80 then some (Char.ofNat a)
    else if a = 0xA0 then some (Char.ofNat 0xF8F0)
    else if 0xFD ≤ a then some (Char.ofNat (a - 0xFD + 0xF8F1))
    else common
  | _ => if a < 0x80 then some (Char.ofNat a) else none
where
  /-- ASCII and the narrow forms of syllables. -/
  common : Option Char := if a < 0x80 then some (Char.ofNat a) else narrow? a

/-- The characters of two bytes. -/
def double? (m : Multibyte) (a b : Nat) : Option (List Char) :=
  match m with
  | guobiao => one ((guobiaoPlace? a b).bind standardCharAt?)
  | guobiaoExtended => one ((guobiaoPlace? a b).bind fun p => Grid.guobiao.charAt? p.1 p.2)
  | guobiaoFull => one ((guobiaoPlace? a b).bind fullCharAt?)
  | five => one ((fivePlace? a b).bind fun p => Grid.five.charAt? p.1 p.2)
  | fiveVendor => one ((fivePlace? a b).bind fiveVendorCharAt?)
  | fiveHongKong => hongKongChars? a b
  | shifted => one ((shiftedPlace? a b).bind fun p => Grid.jis.charAt? p.1 p.2)
  | shiftedVendor => one ((shiftedPlace? a b).bind shiftedVendorCharAt?)
  | shiftedLater old => (shiftedPlace? a b).bind (laterShiftedChars? old)
  | japanese =>
    one (if a = 0x8E then narrow? b else (highPlace? a b).bind fun p => Grid.jis.charAt? p.1 p.2)
  | japaneseLater old =>
    if a = 0x8E then one (narrow? b) else (highPlace? a b).bind (laterCharsAt? old false)
  | korean =>
    if a = 0xA4 ∧ b = 0xD4 then none
    else one ((highPlace? a b).bind fun p => Grid.ks.charAt? p.1 p.2)
  | koreanVendor =>
    one (((highPlace? a b).bind fun p => Grid.ks.charAt? p.1 p.2).orElse fun _ => outer)
  | koreanFields => one (fieldsChar? a b)
where
  /-- A place with one character. -/
  one (c? : Option Char) : Option (List Char) := c?.map ([·])
  /-- A syllable outside the standard. -/
  outer : Option Char :=
    if 0x81 ≤ a ∧ a ≤ 0xC6 then
      (outerIndex? a b).map fun i => Char.ofNat (missingAt syllables 0xAC00 i)
    else none

/-- The character of three bytes after 0x8F: one of the supplement, or of the second plane. -/
def triple? (m : Multibyte) (b c : Nat) : Option (List Char) :=
  let supplement? := (highPlace? b c).bind fun p => Grid.jisSupplement.charAt? p.1 p.2
  match m with
  | japanese => supplement?.map ([·])
  | japaneseLater old =>
    ((highPlace? b c).bind (laterCharsAt? old true)).orElse fun _ => supplement?.map ([·])
  | _ => none

/-- How many bytes a character has that begins with some bytes, as far as they tell. -/
def needed (m : Multibyte) (a : Nat) (rest : List Nat) : Nat :=
  let isLead (most : Nat) : Bool := (0x81 ≤ a && a < 0xA0) || (0xE0 ≤ a && a ≤ most)
  match m, rest with
  | guobiaoFull, b :: _ => if 0x30 ≤ b ∧ b < 0x3A then 4 else 2
  | korean, b :: _ => if a = 0xA4 ∧ b = 0xD4 then 8 else 2
  | japanese, _ => if a = 0x8F then 3 else 2
  | japaneseLater _, _ => if a = 0x8F then 3 else 2
  | shifted, _ => if isLead 0xEA then 2 else 1
  | shiftedVendor, _ => if isLead 0xFC then 2 else 1
  | shiftedLater _, _ => if isLead 0xFC then 2 else 1
  | _, _ => 2

/-- The characters at the beginning of some bytes, and how many bytes they have; none if they spell
none. -/
def first? (m : Multibyte) (a : Nat) (rest : List Nat) : Option (List Char × Nat) :=
  match m.single? a with
  | some c => some ([c], 1)
  | none =>
    let n := m.needed a rest
    if rest.length + 1 < n then none
    else
      match n, rest with
      | 2, b :: _ => (m.double? a b).map (·, 2)
      | 3, b :: c :: _ => (m.triple? b c).map (·, 3)
      | 4, b :: c :: d :: _ => (fourChar? a b c d).map ([·], 4)
      | 8, _ :: more => (ofLetters? more).map ([·], 8)
      | _, _ => none

/-- How many bytes are refused of those that begin with some that are no character: the older edition of
the later standard refuses both bytes of a character that only the newer one has. -/
def refused (m : Multibyte) (a : Nat) (rest : List Nat) : Nat :=
  match m, rest with
  | japaneseLater true, b :: _ => if ((japaneseLater false).double? a b).isSome then 2 else 1
  | shiftedLater true, b :: _ => if ((shiftedLater false).double? a b).isSome then 2 else 1
  | _, _ => 1

/-- What is said of bytes that are no character. -/
def illegal : String := "illegal multibyte sequence"

/-- What is said of bytes that end before a character does. -/
def incomplete : String := "incomplete multibyte sequence"

/-- The characters of at most `n` of some bytes from a position on, after those read so far. -/
def characters (m : Multibyte) : Nat → Nat → List Char → List Nat → Except Flaw (List Char)
  | 0, _, acc, _ => .ok acc.reverse
  | _, _, acc, [] => .ok acc.reverse
  | n + 1, position, acc, a :: rest =>
    match m.first? a rest with
    | some (cs, used) => characters m n (position + used) (cs.reverse ++ acc) (rest.drop (used - 1))
    | none =>
      if rest.length + 1 < m.needed a rest then .error ⟨position, rest.length + 1, incomplete⟩
      else .error ⟨position, m.refused a rest, illegal⟩

/-- The text of some bytes. -/
def decode (m : Multibyte) (bytes : List UInt8) : Except Flaw (List Char) :=
  m.characters bytes.length 0 [] (bytes.map UInt8.toNat)

/-- The bytes of a text, after those written so far; or the position of a character without a code,
and the character. A last character that may begin a pair is not written. -/
def written (m : Multibyte) : Nat → List UInt8 → List Char → Except (Nat × Char) (List UInt8)
  | _, acc, [] => .ok acc.reverse
  | position, acc, c :: d :: rest =>
    match m.pairBytes? c d, m.bytesOf? c with
    | some bs, _ => written m (position + 2) (bs.reverse ++ acc) rest
    | none, some bs => written m (position + 1) (bs.reverse ++ acc) (d :: rest)
    | none, none => .error (position, c)
  | position, acc, [c] =>
    if m.waits c then .ok acc.reverse
    else
      match m.bytesOf? c with
      | some bs => .ok (bs.reverse ++ acc).reverse
      | none => .error (position, c)

/-- The bytes of a text; or the position of a character without a code, and the character. -/
def encode (m : Multibyte) (cs : List Char) : Except (Nat × Char) (List UInt8) := m.written 0 [] cs

end Multibyte

end Stepwise.Text
