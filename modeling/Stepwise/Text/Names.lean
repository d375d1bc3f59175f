import Stepwise.Text.Names.Eastern
import Stepwise.Text.Names.European
import Stepwise.Text.Names.Latin
import Stepwise.Text.Names.Pictures
import Stepwise.Text.Names.Signs

/-!
Names of characters that have no name of their own, and further names of some that have one.
-/

namespace Stepwise.Text.Names

/-- The number of the first character of a block and the names from it on, each one ended by a semicolon. -/
def controls : List (Nat × List String) :=
  [(0x0, ["NULL;START OF HEADING;START OF TEXT;END OF TEXT;END OF TRANSMISSION;ENQUIRY;ACKNOWLEDGE;",
      "ALERT;BACKSPACE;CHARACTER TABULATION;LINE FEED;LINE TABULATION;FORM FEED;CARRIAGE RETURN;",
      "SHIFT OUT;SHIFT IN;DATA LINK ESCAPE;DEVICE CONTROL ONE;DEVICE CONTROL TWO;",
      "DEVICE CONTROL THREE;DEVICE CONTROL FOUR;NEGATIVE ACKNOWLEDGE;SYNCHRONOUS IDLE;",
      "END OF TRANSMISSION BLOCK;CANCEL;END OF MEDIUM;SUBSTITUTE;ESCAPE;INFORMATION SEPARATOR FOUR;",
      "INFORMATION SEPARATOR THREE;INFORMATION SEPARATOR TWO;INFORMATION SEPARATOR ONE;SP;"]),
    (0x7F, ["DELETE;PADDING CHARACTER;HIGH OCTET PRESET;BREAK PERMITTED HERE;NO BREAK HERE;INDEX;",
      "NEXT LINE;START OF SELECTED AREA;END OF SELECTED AREA;CHARACTER TABULATION SET;",
      "CHARACTER TABULATION WITH JUSTIFICATION;LINE TABULATION SET;PARTIAL LINE FORWARD;",
      "PARTIAL LINE BACKWARD;REVERSE LINE FEED;SINGLE SHIFT TWO;SINGLE SHIFT THREE;",
      "DEVICE CONTROL STRING;PRIVATE USE ONE;PRIVATE USE TWO;SET TRANSMIT STATE;CANCEL CHARACTER;",
      "MESSAGE WAITING;START OF GUARDED AREA;END OF GUARDED AREA;START OF STRING;",
      "SINGLE GRAPHIC CHARACTER INTRODUCER;SINGLE CHARACTER INTRODUCER;CONTROL SEQUENCE INTRODUCER;",
      "STRING TERMINATOR;OPERATING SYSTEM COMMAND;PRIVACY MESSAGE;APPLICATION PROGRAM COMMAND;NBSP;"]),
    (0xAD, ["SHY;"]),
    (0x1A2, ["LATIN CAPITAL LETTER GHA;LATIN SMALL LETTER GHA;"]),
    (0x34F, ["CGJ;"]),
    (0x61C, ["ALM;"]),
    (0x200B, ["ZWSP;ZWNJ;ZWJ;LRM;RLM;"]),
    (0x202A, ["LRE;RLE;PDF;LRO;RLO;NNBSP;"]),
    (0x205F, ["MMSP;WJ;"]),
    (0x2066, ["LRI;RLI;FSI;PDI;"]),
    (0x2118, ["WEIERSTRASS ELLIPTIC FUNCTION;"]),
    (0x2448, ["MICR ON US SYMBOL;MICR DASH SYMBOL;"]),
    (0xFE00, ["VS1;VS2;VS3;VS4;VS5;VS6;VS7;VS8;VS9;VS10;VS11;VS12;VS13;VS14;VS15;VS16;"]),
    (0xFEFF, ["ZWNBSP;"]),
    (0x0, ["NUL;SOH;STX;ETX;EOT;ENQ;ACK;BEL;BS;HORIZONTAL TABULATION;NEW LINE;VERTICAL TABULATION;FF;CR;",
      "LOCKING-SHIFT ONE;LOCKING-SHIFT ZERO;DLE;DC1;DC2;DC3;DC4;NAK;SYN;ETB;CAN;EOM;SUB;ESC;",
      "FILE SEPARATOR;GROUP SEPARATOR;RECORD SEPARATOR;UNIT SEPARATOR;"]),
    (0x7F, ["DEL;PAD;HOP;BPH;NBH;IND;NEL;SSA;ESA;HORIZONTAL TABULATION SET;",
      "HORIZONTAL TABULATION WITH JUSTIFICATION;VERTICAL TABULATION SET;PARTIAL LINE DOWN;",
      "PARTIAL LINE UP;REVERSE INDEX;SINGLE-SHIFT-2;SINGLE-SHIFT-3;DCS;PRIVATE USE-1;PRIVATE USE-2;",
      "STS;CCH;MW;START OF PROTECTED AREA;END OF PROTECTED AREA;SOS;SGC;SCI;CSI;ST;OSC;PM;APC;"]),
    (0xFEFF, ["BOM;"]),
    (0x9, ["HT;END OF LINE;VT;;;SO;SI;"]),
    (0x1C, ["FS;GS;RS;US;"]),
    (0x88, ["HTS;HTJ;VTS;PLD;PLU;RI;SS2;SS3;;PU1;PU2;"]),
    (0x96, ["SPA;EPA;"]),
    (0xFEFF, ["BYTE ORDER MARK;"]),
    (0x9, ["TAB;LF;"]),
    (0xFEFF, ["ZERO WIDTH NO-BREAK SPACE;"]),
    (0xA, ["NL;"]),
    (0xA, ["EOL;"])]

end Stepwise.Text.Names

/-!
The names of characters, in capital letters. Syllables of Hangul are named by their letters and
ideographs by their numbers; the other names are listed.
-/

namespace Stepwise.Text.Names

/-- All blocks of listed names. -/
def blocks : List (Nat × List String) := latin ++ european ++ eastern ++ signs ++ pictures ++ controls

/-- The place of a name among names that are ended by semicolons; `index` names come before, `part`
is what was read of the next one, in reverse, and `name` is reversed too. -/
def indexOf? (name : List Char) : Nat → List Char → List Char → Option Nat
  | _, _, [] => none
  | index, part, c :: rest =>
    if c = ';' then (if part = name then some index else indexOf? name (index + 1) [] rest)
    else indexOf? name index (c :: part) rest

/-- The character with a listed name. -/
def listed? (name : List Char) : Option Char :=
  if name.isEmpty then none
  else
    blocks.findSome? fun (start, pieces) =>
      (indexOf? name.reverse 0 [] (pieces.flatMap String.toList)).map fun i => Char.ofNat (start + i)

/-- The letters at the beginnings of syllables. -/
def initials : List String :=
  ["G", "GG", "N", "D", "DD", "R", "M", "B", "BB", "S", "SS", "", "J", "JJ", "C", "K", "T", "P", "H"]

/-- The letters in the middle of syllables. -/
def vowels : List String :=
  ["A", "AE", "YA", "YAE", "EO", "E", "YEO", "YE", "O", "WA", "WAE", "OE", "YO", "U", "WEO", "WE", "WI",
    "YU", "EU", "YI", "I"]

/-- The letters at the ends of syllables. -/
def finals : List String :=
  ["", "G", "GG", "GS", "N", "NJ", "NH", "D", "L", "LG", "LM", "LB", "LS", "LT", "LP", "LH", "M", "B",
    "BS", "S", "SS", "NG", "J", "C", "K", "T", "P", "H"]

/-- The longest of some letters with which a text begins: its place among them, and what follows it. -/
def longest? (letters : List String) (cs : List Char) : Option (Nat × List Char) :=
  let found := letters.zipIdx.filter fun l => l.1.toList.isPrefixOf cs
  let best := found.foldl (fun (b : Option (String × Nat)) l =>
    match b with
    | some b => if b.1.length < l.1.length then some l else some b
    | none => some l) none
  best.map fun b => (b.2, cs.drop b.1.length)

/-- The syllable of some letters. -/
def syllable? (cs : List Char) : Option Char := do
  let (i, rest) ← longest? initials cs
  let (v, rest) ← longest? vowels rest
  let (f, rest) ← longest? finals rest
  if rest.isEmpty then some (Char.ofNat (0xAC00 + i * 588 + v * 28 + f)) else none

/-- The ranges of ideographs. -/
def ideographs : List (Nat × Nat) :=
  [(0x3400, 0x4DBF), (0x4E00, 0x9FFF), (0x20000, 0x2A6DF), (0x2A700, 0x2B739), (0x2B740, 0x2B81D),
    (0x2B820, 0x2CEA1), (0x2CEB0, 0x2EBE0), (0x30000, 0x3134A), (0x31350, 0x323AF)]

/-- The value of a digit in base 16, in capital letters. -/
def hexValue? (c : Char) : Option Nat :=
  if c.isDigit then some (c.toNat - 48)
  else if 'A' ≤ c ∧ c ≤ 'F' then some (c.toNat - 55)
  else none

/-- The ideograph with a number of four or five digits. -/
def ideograph? (cs : List Char) : Option Char := do
  let digits ← cs.mapM hexValue?
  let n := digits.foldl (fun n d => n * 16 + d) 0
  if (cs.length = 4 ∨ cs.length = 5) ∧ ideographs.any (fun r => r.1 ≤ n && n ≤ r.2) then some (Char.ofNat n)
  else none

/-- The character of a name. Small letters may stand for capital ones in the names that are listed. -/
def charOf? (name : List Char) : Option Char :=
  let hangul := "HANGUL SYLLABLE ".toList
  let ideograph := "CJK UNIFIED IDEOGRAPH-".toList
  if hangul.isPrefixOf name then syllable? (name.drop hangul.length)
  else if ideograph.isPrefixOf name then ideograph? (name.drop ideograph.length)
  else listed? (name.map Char.toUpper)

end Stepwise.Text.Names
