import Stepwise.Shell.Letters
import Stepwise.Text.Printable

/-!
Texts between quotes, as programs show them: in a form that a command line reads back, or between
curved quotes. What cannot be printed is written with a backslash in both.
-/

namespace Stepwise.Shell.Quoting

/-- The letter after a backslash that spells a character. -/
def escapeLetter? (c : Char) : Option Char :=
  match c with
  | '\x07' => some 'a'
  | '\x08' => some 'b'
  | '\t' => some 't'
  | '\n' => some 'n'
  | '\x0b' => some 'v'
  | '\x0c' => some 'f'
  | '\r' => some 'r'
  | _ => none

/-- The ranges of blanks, of marks that shape a text, and of characters left to private use. -/
def unseenRanges : List (Nat × Nat) :=
  [(0xA0, 0xA0), (0xAD, 0xAD), (0x600, 0x605), (0x61C, 0x61C), (0x6DD, 0x6DD), (0x70F, 0x70F),
    (0x1680, 0x1680), (0x180E, 0x180E), (0x2000, 0x200F), (0x202A, 0x202F), (0x205F, 0x2064),
    (0x2066, 0x206F), (0x3000, 0x3000), (0xE000, 0xF8FF), (0xFEFF, 0xFEFF), (0xFFF9, 0xFFFB),
    (0x1D173, 0x1D17A), (0xE0020, 0xE007F), (0xF0000, 0xFFFFD), (0x100000, 0x10FEFF)]

/-- Whether a letter can be printed; blanks of all scripts and what shapes a text can. -/
def isShowable (c : Char) : Bool :=
  if c.toNat < 128 then 32 ≤ c.toNat && c.toNat < 127
  else !Letters.isStray c &&
    (Text.isPrintable c || unseenRanges.any fun r => r.1 ≤ c.toNat && c.toNat ≤ r.2)

/-- A letter that cannot be printed, with backslashes: by a letter of its own or by its bytes in base
eight. -/
def escaped (c : Char) : List Char :=
  match escapeLetter? c with
  | some e => ['\\', e]
  | none => (Letters.toBytes [c]).flatMap fun b =>
    let ds := Nat.toDigits 8 b.toNat
    '\\' :: List.replicate (3 - ds.length) '0' ++ ds

/-- Whether a text has to stand between quotes because of a letter: `first` tells that it is the first
one, and `sole` that it is the only one. -/
def needsQuotes (colon first sole : Bool) (c : Char) : Bool :=
  !isShowable c || " !\"$&()*;<=>?[\\^\x60|'".toList.contains c || (colon && c == ':') ||
    (first && (c == '#' || c == '~')) || (sole && (c == '\x7b' || c == '\x7d'))

/-- Whether a letter means itself between double quotes. -/
def isHarmless (first : Bool) (c : Char) : Bool :=
  isShowable c && !"!\"$&()*;<=>?[\\^\x60|\x7b\x7d".toList.contains c && (first || (c != '#' && c != '~'))

/-- Letters between single quotes; those that cannot be printed stand in pieces of their own, and
`inPiece` tells whether such a piece goes on. -/
def pieces : Bool → List Char → List Char
  | _, [] => ['\'']
  | inPiece, c :: cs =>
    if c = '\'' then ['\'', '\\', '\'', '\''] ++ pieces false cs
    else if isShowable c then (if inPiece then ['\'', '\''] else []) ++ c :: pieces false cs
    else (if inPiece then [] else ['\'', '$', '\'']) ++ escaped c ++ pieces true cs

/-- A text between quotes. -/
def always (s : String) : String :=
  let letters := Letters.ofBytes s.toList
  let harmless := letters.headD 'a' |> isHarmless true
  let between := if letters.contains '\'' && harmless && (letters.drop 1).all (isHarmless false)
    then '"' :: letters ++ ['"'] else '\'' :: pieces false letters
  String.ofList (Letters.toBytes between)

/-- Whether a text cannot stand for itself on a command line. -/
def isNeeded (colon : Bool) (s : String) : Bool :=
  match Letters.ofBytes s.toList with
  | [] => true
  | c :: cs => needsQuotes colon true cs.isEmpty c || cs.any (needsQuotes colon false false)

/-- A text between quotes unless it can stand for itself. -/
def word (s : String) : String := if isNeeded false s then always s else s

/-- The name of a file before a colon, between quotes unless nothing in it can be taken for another. -/
def name (s : String) : String := if isNeeded true s then always s else s

/-- A text between curved quotes. -/
def curved (s : String) : String :=
  let letters := (Letters.ofBytes s.toList).flatMap fun c =>
    if c = '\\' ∨ c = '’' then ['\\', c] else if isShowable c then [c] else escaped c
  String.ofList (Letters.toBytes ('‘' :: letters ++ ['’']))

end Stepwise.Shell.Quoting
