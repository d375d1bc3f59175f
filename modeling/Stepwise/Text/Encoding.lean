import Stepwise.Text.CodePage.Catalogue
import Stepwise.Text.Designated
import Stepwise.Text.Domain
import Stepwise.Text.Escaped
import Stepwise.Text.Lines
import Stepwise.Text.Multibyte
import Stepwise.Text.Shifted
import Stepwise.Text.Tilde
import Stepwise.Text.Units
import Stepwise.Text.Utf8

/-!
The encodings in which files may be kept. An encoding with a signature writes it at the start of a
file and drops it on reading. A character without a code is refused with its position, and so are
bytes that spell no text.
-/

namespace Stepwise.Text

/-- How characters become bytes. -/
inductive Encoding
  | ascii
  | latin1
  | paged (page : CodePage)
  | multibyte (m : Multibyte)
  | designated (d : Designated)
  | tilde
  | escaped (raw : Bool)
  | shifted
  | punycode
  | domain
  | utf8
  | utf8Signed
  | utf16 (bigEndian : Bool)
  | utf16Marked
  | utf32 (bigEndian : Bool)
  | utf32Marked
  | undefined
  deriving DecidableEq, Repr

/-- A refusal, in words; `general` is one that tells no position. -/
inductive CodingError
  | unencodable (text : String)
  | undecodable (text : String)
  | general (text : String)
  deriving DecidableEq, Repr

namespace Encoding

/-- The names of the encodings, as they are after normalization; each has one of its own, which comes
first, and perhaps others. -/
def names : List (Encoding × List String) :=
  [(.ascii, ["ascii", "646", "ansi_x3.4_1968", "ansi_x3_4_1968", "ansi_x3.4_1986", "cp367", "csascii",
      "ibm367", "iso646_us", "iso_646.irv_1991", "iso_ir_6", "us", "us_ascii"]),
    (.latin1, ["latin_1", "8859", "cp819", "csisolatin1", "ibm819", "iso8859", "iso8859_1",
      "iso_8859_1", "iso_8859_1_1987", "iso_ir_100", "l1", "latin", "latin1"]),
    (.latin1, ["charmap"]),
    (.utf8, ["utf_8", "u8", "utf", "utf8", "utf8_ucs2", "utf8_ucs4", "cp65001"]),
    (.utf8Signed, ["utf_8_sig"]),
    (.utf16 false, ["utf_16_le", "utf_16le", "unicodelittleunmarked"]),
    (.utf16 true, ["utf_16_be", "utf_16be", "unicodebigunmarked"]),
    (.utf16Marked, ["utf_16", "u16", "utf16"]),
    (.utf32 false, ["utf_32_le", "utf_32le"]),
    (.utf32 true, ["utf_32_be", "utf_32be"]),
    (.utf32Marked, ["utf_32", "u32", "utf32"]),
    (.shifted, ["utf_7", "u7", "utf7", "unicode_1_1_utf_7"]),
    (.tilde, Tilde.names),
    (.punycode, ["punycode"]),
    (.domain, ["idna"]),
    (.escaped false, ["unicode_escape"]),
    (.escaped true, ["raw_unicode_escape"]),
    (.undefined, ["undefined"])]

/-- The names of codings that are not between text and bytes. -/
def transforms : List (List String) :=
  [["base64_codec", "base64", "base_64"], ["bz2_codec", "bz2"], ["hex_codec", "hex"],
    ["quopri_codec", "quopri", "quoted_printable", "quotedprintable"], ["rot_13", "rot13"],
    ["uu_codec", "uu"], ["zlib_codec", "zip", "zlib"]]

/-- A name in lower case with each run of punctuation as one underscore; `gap` tells whether
punctuation was just read and `started` whether anything came before it. -/
def normalize (gap started : Bool) : List Char → List Char
  | [] => []
  | c :: rest =>
    if c.isAlphanum || c == '.' then
      (if gap && started then ['_'] else []) ++ c.toLower :: normalize false true rest
    else normalize true started rest

/-- Whether a name is among those of a coding. Points may stand for underscores in the names that are
not its own. -/
def isNamed (s : String) (names : List String) : Bool :=
  let cs := normalize false false s.toList
  names.contains (String.ofList cs) ||
    (names.drop 1).contains (String.ofList (cs.map fun c => if c == '.' then '_' else c))

/-- The encoding of a name. -/
def ofName? (s : String) : Option Encoding :=
  if s = "locale" then some .utf8
  else
    let known := names ++ CodePage.all.map (fun p => (.paged p, p.names)) ++
      Multibyte.all.map (fun m => (.multibyte m, m.names)) ++
      Designated.all.map fun d => (.designated d, d.names)
    (known.find? fun k => isNamed s k.2).map (·.1)

/-- Whether a name is that of a coding that is not between text and bytes. -/
def isTransform (s : String) : Bool := transforms.any (isNamed s)

/-- The byte of a character in an encoding with one byte for each. -/
def byteOf? (e : Encoding) (c : Char) : Option UInt8 :=
  match e with
  | ascii => if c.toNat < 0x80 then some c.toNat.toUInt8 else none
  | paged p => p.byteOf? c
  | _ => if c.toNat < 0x100 then some c.toNat.toUInt8 else none

/-- The character of a byte in an encoding with one byte for each. -/
def charOf? (e : Encoding) (b : UInt8) : Option Char :=
  match e with
  | ascii => if b.toNat < 0x80 then some (Char.ofNat b.toNat) else none
  | paged p => p.charOf? b
  | _ => some (Char.ofNat b.toNat)

/-- How the characters that an encoding lacks are spoken of. -/
def codecName : Encoding → String
  | ascii => "ascii"
  | latin1 => "latin-1"
  | paged _ => "charmap"
  | multibyte m => m.name
  | designated d => d.name
  | tilde => "hz"
  | escaped raw => if raw then "rawunicodeescape" else "unicodeescape"
  | shifted => "utf7"
  | punycode => "ascii"
  | domain => "ascii"
  | utf8 => "utf-8"
  | utf8Signed => "utf-8"
  | utf16 b => if b then "utf-16-be" else "utf-16-le"
  | utf16Marked => "utf-16"
  | utf32 b => if b then "utf-32-be" else "utf-32-le"
  | utf32Marked => "utf-32"
  | undefined => "undefined"

/-- What is said of a byte or a character that ASCII lacks. -/
def beyondAscii : String := "ordinal not in range(128)"

/-- Why an encoding lacks a character. -/
def lack : Encoding → String
  | latin1 => "ordinal not in range(256)"
  | paged _ => "character maps to <undefined>"
  | multibyte _ => Multibyte.illegal
  | designated _ => Multibyte.illegal
  | tilde => Multibyte.illegal
  | _ => beyondAscii

/-- A run of characters without codes that begins at a position. -/
def unencodableText (e : Encoding) (position : Nat) (run : List Char) : String :=
  let where_ := match run with
    | [c] => " character '" ++ String.ofList (codeEscape c) ++ "' in position " ++ toString position
    | _ => " characters in position " ++ toString position ++ "-" ++
        toString (position + run.length - 1)
  "'" ++ e.codecName ++ "' codec can't encode" ++ where_ ++ ": " ++ e.lack

/-- Encodes with one byte for each character. -/
def encodeBytes (e : Encoding) (cs : List Char) : Except CodingError (List UInt8) :=
  let good := cs.takeWhile fun c => (e.byteOf? c).isSome
  match cs.drop good.length with
  | [] => .ok (cs.filterMap e.byteOf?)
  | rest => .error (.unencodable (e.unencodableText good.length
      (rest.takeWhile fun c => (e.byteOf? c).isNone)))

/-- What was written, or the first character without a code. -/
def orLack (e : Encoding) (written : Except (Nat × Char) (List UInt8)) :
    Except CodingError (List UInt8) :=
  written.mapError fun f => .unencodable (e.unencodableText f.1 [f.2])

/-- What is said of an encoding that is not defined. -/
def undefinedText : String := "undefined encoding"

/-- The characters of ASCII as bytes. -/
def plainBytes (cs : List Char) : List UInt8 := cs.map fun c => c.toNat.toUInt8

/-- The bytes of a text; `start` tells whether it stands at the start of a file. -/
def encode (e : Encoding) (start : Bool) (cs : List Char) : Except CodingError (List UInt8) :=
  let mark (bytes : List UInt8) : List UInt8 := if start then bytes else []
  let halves (bigEndian : Bool) := cs.flatMap fun c => (Units.halves c).flatMap (Units.bytesOf bigEndian 2)
  let wholes (bigEndian : Bool) := cs.flatMap fun c => Units.bytesOf bigEndian 4 c.toNat
  match e with
  | utf8 => .ok (Utf8.encode cs)
  | utf8Signed => .ok (mark [0xEF, 0xBB, 0xBF] ++ Utf8.encode cs)
  | utf16 b => .ok (halves b)
  | utf16Marked => .ok (mark [0xFF, 0xFE] ++ halves false)
  | utf32 b => .ok (wholes b)
  | utf32Marked => .ok (mark [0xFF, 0xFE, 0, 0] ++ wholes false)
  | multibyte m => e.orLack (m.encode cs)
  | designated d => e.orLack (d.encode start cs)
  | tilde => e.orLack (Tilde.encode cs)
  | escaped raw => .ok (Escaped.encode raw cs)
  | shifted => .ok (Shifted.encode cs)
  | punycode => .ok (plainBytes (Punycode.encode cs))
  | domain => (Domain.encode cs).mapError .general |>.map plainBytes
  | undefined => .error (.general undefinedText)
  | _ => e.encodeBytes cs

/-- Bytes that spell nothing, in words. -/
def undecodableText (e : Encoding) (bytes : List UInt8) (f : Flaw) : String :=
  let first := (bytes.getD f.position 0).toNat
  let where_ :=
    if f.length = 1 then " byte 0x" ++ String.ofList (hexDigits 2 first) ++ " in position " ++
      toString f.position
    else " bytes in position " ++ toString f.position ++ "-" ++ toString (f.position + f.length - 1)
  "'" ++ e.codecName ++ "' codec can't decode" ++ where_ ++ ": " ++ f.reason

/-- What was read, or why nothing was. -/
def orFlaw (e : Encoding) (bytes : List UInt8) (read : Except Flaw (List Char)) :
    Except CodingError (List Char) :=
  read.mapError fun f => .undecodable (e.undecodableText bytes f)

/-- Decodes units whose order a mark at the start tells. -/
def decodeMarked (wide : Bool) (bytes : List UInt8) : Except CodingError (List Char) :=
  let width := if wide then 4 else 2
  let plain (bigEndian : Bool) : Encoding := if wide then utf32 bigEndian else utf16 bigEndian
  let read (bigEndian : Bool) (skip : Nat) :=
    orFlaw (plain bigEndian) bytes (Units.read bigEndian wide skip (bytes.drop skip))
  if (Units.bytesOf false width 0xFEFF).isPrefixOf bytes then read false width
  else if (Units.bytesOf true width 0xFEFF).isPrefixOf bytes then read true width
  else
    match read false 0 with
    | .error e => .error e
    | .ok cs =>
      if bytes.length < width then .ok cs
      else
        .error (.general ((if wide then "UTF-32" else "UTF-16") ++ " stream does not start with BOM"))

/-- Decodes one byte for each character. -/
def decodeBytes (e : Encoding) (bytes : List UInt8) : Except CodingError (List Char) :=
  match bytes.findIdx? fun b => (e.charOf? b).isNone with
  | none => .ok (bytes.filterMap e.charOf?)
  | some i => e.orFlaw bytes (.error ⟨i, 1, e.lack⟩)

/-- Decodes what letters, digits and hyphens spell. -/
def decodePunycode (bytes : List UInt8) : Except CodingError (List Char) := do
  let parts := Punycode.parts (bytes.map fun b => Char.ofNat b.toNat)
  let basic ← ascii.decodeBytes (plainBytes parts.1)
  let numbers ← ascii.decodeBytes (plainBytes parts.2)
  (Punycode.decode (basic, numbers)).mapError .general

/-- The text of the bytes of a file. -/
def decode (e : Encoding) (bytes : List UInt8) : Except CodingError (List Char) :=
  match e with
  | utf8 => e.orFlaw bytes (Utf8.decode bytes)
  | utf8Signed =>
    let mark : List UInt8 := [0xEF, 0xBB, 0xBF]
    let text := if mark.isPrefixOf bytes then bytes.drop 3 else bytes
    if bytes.isPrefixOf mark then .ok [] else e.orFlaw text (Utf8.decode text)
  | utf16 b => e.orFlaw bytes (Units.read b false 0 bytes)
  | utf16Marked => decodeMarked false bytes
  | utf32 b => e.orFlaw bytes (Units.read b true 0 bytes)
  | utf32Marked => decodeMarked true bytes
  | multibyte m => e.orFlaw bytes (m.decode bytes)
  | designated d => e.orFlaw bytes (d.decode bytes)
  | tilde => e.orFlaw bytes (Tilde.decode bytes)
  | escaped raw => e.orFlaw bytes (Escaped.decode raw bytes)
  | shifted => e.orFlaw bytes (Shifted.decode bytes)
  | punycode => decodePunycode bytes
  | domain => do
    let cs ← ascii.decodeBytes bytes
    (Domain.decode cs).mapError .general
  | undefined => .error (.general undefinedText)
  | _ => e.decodeBytes bytes

end Encoding

end Stepwise.Text
