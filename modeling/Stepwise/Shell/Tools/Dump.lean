import Stepwise.Number.Format
import Stepwise.Shell.Tools.Basic

/-!
`od`: bytes as numbers or letters. A unit of bytes is shown in each of several styles, one line for each,
and rows that are equal to the one before are left out.
-/

namespace Stepwise.Shell.Tools

open Run

namespace Dump

/-- What a unit is shown as. -/
inductive Shape
  | signed | unsigned | octal | hexadecimal | float | letter | name
  deriving DecidableEq, Repr

/-- How units of some bytes are shown; the letters of a row may stand behind it. -/
structure Style where
  shape : Shape
  size : Nat
  trailed : Bool
  deriving Repr

/-- The names of the first characters. -/
def controlNames : List String :=
  ["nul", "soh", "stx", "etx", "eot", "enq", "ack", "bel", "bs", "ht", "nl", "vt", "ff", "cr", "so", "si",
    "dle", "dc1", "dc2", "dc3", "dc4", "nak", "syn", "etb", "can", "em", "sub", "esc", "fs", "gs", "rs", "us",
    "sp"]

/-- The width of a unit. -/
def Style.width (s : Style) : Nat :=
  match s.shape with
  | .signed => if s.size = 1 then 4 else if s.size = 2 then 6 else if s.size = 4 then 11 else 20
  | .unsigned => if s.size = 1 then 3 else if s.size = 2 then 5 else if s.size = 4 then 10 else 20
  | .octal => if s.size = 1 then 3 else if s.size = 2 then 6 else if s.size = 4 then 11 else 22
  | .hexadecimal => 2 * s.size
  | .float => if s.size = 4 then 15 else if s.size = 8 then 24 else 29
  | .letter => 3
  | .name => 3

/-- A byte as a letter, or in base eight. -/
def letterText (c : Char) : List Char :=
  match c with
  | '\x00' => ['\\', '0']
  | '\x07' => ['\\', 'a']
  | '\x08' => ['\\', 'b']
  | '\t' => ['\\', 't']
  | '\n' => ['\\', 'n']
  | '\x0b' => ['\\', 'v']
  | '\x0c' => ['\\', 'f']
  | '\r' => ['\\', 'r']
  | c =>
    if 32 ≤ c.toNat ∧ c.toNat < 127 then [c]
    else
      let ds := Nat.toDigits 8 c.toNat
      List.replicate (3 - ds.length) '0' ++ ds

/-- A unit as a text, its bytes being given from the lowest to the highest. -/
def Style.text (s : Style) (cs : List Char) : List Char :=
  let n := cs.foldr (fun c n => n * 256 + c.toNat) 0
  let filled := fun (ds : List Char) => List.replicate (s.width - ds.length) '0' ++ ds
  match s.shape with
  | .signed =>
    let top := Nat.pow 2 (8 * s.size)
    if 2 * n < top then Nat.toDigits 10 n else '-' :: Nat.toDigits 10 (top - n)
  | .unsigned => Nat.toDigits 10 n
  | .octal => filled (Nat.toDigits 8 n)
  | .hexadecimal => filled (Nat.toDigits 16 n)
  | .float =>
    (if s.size = 4 then BinaryFormat.single else if s.size = 8 then .double else .extended).text n
  | .letter => letterText (Char.ofNat n)
  | .name =>
    let c := n % 128
    if c = 127 then "del".toList else ((controlNames[c]?).map String.toList).getD [Char.ofNat c]

/-- The sizes that a word of one letter names. -/
def sizeOfLetter? (float : Bool) (c : Char) : Option Nat :=
  let sizes := if float then [('F', 4), ('D', 8), ('L', 16)] else [('C', 1), ('S', 2), ('I', 4), ('L', 8)]
  (sizes.find? (·.1 == c)).map (·.2)

/-- The styles that a text spells. -/
def styles (whole : String) : Nat → List Char → Except String (List Style)
  | 0, _ => .ok []
  | _, [] => .ok []
  | n + 1, c :: cs => do
    let bad := fun (c : Char) =>
      "invalid character '" ++ String.singleton c ++ "' in type string " ++ named whole
    let shape : Shape ← match c with
      | 'd' => .ok .signed
      | 'u' => .ok .unsigned
      | 'o' => .ok .octal
      | 'x' => .ok .hexadecimal
      | 'f' => .ok .float
      | 'c' => .ok .letter
      | 'a' => .ok .name
      | c => .error (bad c)
    let float := decide (shape = .float)
    let (size, rest) ←
      if shape = .letter ∨ shape = .name then .ok (1, cs)
      else
        match cs.head?.bind (sizeOfLetter? float) with
        | some size => .ok (size, cs.drop 1)
        | none =>
          let ds := cs.takeWhile Char.isDigit
          if ds.isEmpty then .ok (if float then 8 else 4, cs)
          else
            let size := (String.ofList ds).toNat?.getD 0
            if Nat.pow 2 64 ≤ size then .error ("invalid type string " ++ named whole)
            else if (if float then [4, 8, 16] else [1, 2, 4, 8]).contains size then .ok (size, cs.drop ds.length)
            else .error ("invalid type string " ++ named whole ++ ";\nthis system doesn't provide a " ++
              toString size ++ "-byte " ++ (if float then "floating point" else "integral") ++ " type")
    let trailed := rest.head? = some 'z'
    return ⟨shape, size, trailed⟩ :: (← styles whole n (if trailed then rest.drop 1 else rest))

/-- The styles that letters of their own name. -/
def lettersOfStyles : List (Char × Style) :=
  [('a', ⟨.name, 1, false⟩), ('b', ⟨.octal, 1, false⟩), ('c', ⟨.letter, 1, false⟩),
    ('D', ⟨.unsigned, 4, false⟩), ('d', ⟨.unsigned, 2, false⟩), ('F', ⟨.float, 8, false⟩),
    ('e', ⟨.float, 8, false⟩), ('f', ⟨.float, 4, false⟩), ('H', ⟨.hexadecimal, 4, false⟩),
    ('X', ⟨.hexadecimal, 4, false⟩), ('i', ⟨.signed, 4, false⟩), ('I', ⟨.signed, 8, false⟩),
    ('L', ⟨.signed, 8, false⟩), ('l', ⟨.signed, 8, false⟩), ('O', ⟨.octal, 4, false⟩),
    ('B', ⟨.octal, 2, false⟩), ('o', ⟨.octal, 2, false⟩), ('s', ⟨.signed, 2, false⟩),
    ('h', ⟨.hexadecimal, 2, false⟩), ('x', ⟨.hexadecimal, 2, false⟩)]

/-- How a dump is laid out: its styles, the bytes of a row, the base of addresses, which may be left out,
and whether all rows are shown. -/
structure Layout where
  styles : List Style
  row : Nat
  base : Option Nat
  all : Bool
  swapped : Bool

namespace Layout

/-- The width of addresses. -/
def addressWidth (l : Layout) : Nat :=
  match l.base with
  | none => 0
  | some 16 => 6
  | some _ => 7

/-- An address. -/
def address (l : Layout) (n : Nat) : List Char :=
  match l.base with
  | none => []
  | some b =>
    let ds := Nat.toDigits b n
    List.replicate (l.addressWidth - ds.length) '0' ++ ds

/-- The widest row of any style. -/
def blockWidth (l : Layout) : Nat :=
  (l.styles.map fun s => (s.width + 1) * (l.row / s.size)).foldl max 0

/-- Units with the blanks before them that spread `pad` blanks over `fields` of them. -/
def spread (s : Style) (swapped : Bool) (pad fields : Nat) : Nat → Nat → List Char → List Char
  | 0, _, _ => []
  | _, _, [] => []
  | i + 1, left, c :: cs =>
    let next := pad * i / fields
    let unit := (c :: cs).take s.size
    let unit := unit ++ List.replicate (s.size - unit.length) '\x00'
    let text := s.text (if swapped then unit.reverse else unit)
    List.replicate (left - next + s.width - text.length) ' ' ++ text ++
      spread s swapped pad fields i next ((c :: cs).drop s.size)

/-- A row in one style. -/
def line (l : Layout) (s : Style) (row : List Char) : List Char :=
  let fields := l.row / s.size
  let pad := l.blockWidth - s.width * fields
  let blank := (l.row - row.length) / s.size
  let units := spread s l.swapped pad fields fields pad row
  let trailer := if s.trailed
    then List.replicate (blank * s.width + pad * blank / fields) ' ' ++ "  >".toList ++
      row.map (fun c => if 32 ≤ c.toNat && c.toNat < 127 then c else '.') ++ ['<']
    else []
  units ++ trailer ++ ['\n']

/-- A row in all styles. -/
def lines (l : Layout) (offset : Nat) (row : List Char) : List Char :=
  match l.styles with
  | [] => []
  | s :: more =>
    l.address offset ++ l.line s row ++
      more.flatMap fun s => List.replicate l.addressWidth ' ' ++ l.line s row

/-- All rows, one after another, the row before being given if there was one. -/
def rows (l : Layout) : Nat → Nat → Option (List Char) → Bool → List Char → List (List Char)
  | 0, offset, _, _, _ => [l.address offset]
  | _, offset, _, _, [] => [l.address offset]
  | n + 1, offset, last, starred, c :: cs =>
    let row := (c :: cs).take l.row
    let rest := (c :: cs).drop l.row
    if !l.all && last == some row && row.length = l.row then
      (if starred then [] else [['*', '\n']]) ++ l.rows n (offset + row.length) last true rest
    else l.lines offset row :: l.rows n (offset + row.length) (some row) false rest

end Layout

/-- The texts of at least `least` letters that end with a zero byte, with their places. -/
def texts (least : Nat) : Nat → Nat → List Char → List Char → List (Nat × List Char)
  | 0, _, _, _ => []
  | _, _, _, [] => []
  | n + 1, at_, run, c :: cs =>
    if c = '\x00' ∧ least ≤ run.length then (at_ - run.length, run.reverse) :: texts least n (at_ + 1) [] cs
    else if 32 ≤ c.toNat ∧ c.toNat < 127 then texts least n (at_ + 1) (c :: run) cs
    else texts least n (at_ + 1) [] cs

/-- A number of bytes and what is wrong with it: a base may be told, and a letter may multiply it. -/
def amount (option s : String) : Except String Nat :=
  let cs := s.toList
  let r := readInteger true cs
  let powers := [("", 1), ("b", 512), ("B", 1024)] ++
    ([('k', 1), ('K', 1), ('m', 2), ('M', 2), ('G', 3), ('T', 4), ('P', 5), ('E', 6)].flatMap fun (c, n) =>
      [(String.singleton c, Nat.pow 1024 n), (String.ofList [c, 'i', 'B'], Nat.pow 1024 n),
        (String.ofList [c, 'B'], Nat.pow 1000 n)])
  if (cs.dropWhile isBlank).head? = some '-' then .error ("invalid " ++ option ++ " argument '" ++ s ++ "'")
  else
    let factor := fun (rest : List Char) => (powers.find? (·.1 == String.ofList rest)).map (·.2)
    match (if r.found then some r.value.toNat else if cs.isEmpty then none else (factor cs).map fun _ => 1),
        factor r.rest with
    | none, _ => .error ("invalid " ++ option ++ " argument '" ++ s ++ "'")
    | some _, none => .error ("invalid suffix in " ++ option ++ " argument '" ++ s ++ "'")
    | some n, some k =>
      if n * k < Nat.pow 2 64 then .ok (n * k)
      else .error (option ++ " argument '" ++ s ++ "'" ++ " too large")

/-- The offset that an operand is: in base eight, or ten or sixteen if it says so, perhaps multiplied. -/
def offset? (s : String) : Option Nat :=
  let cs := match s.toList with
    | '+' :: cs => cs
    | cs => cs
  let (base, ds) := match cs with
    | '0' :: 'x' :: ds => (16, ds)
    | '0' :: 'X' :: ds => (16, ds)
    | ds => (8, ds)
  let run := ds.takeWhile fun c => decide (digitValue c < base)
  let n := run.foldl (fun n c => n * base + digitValue c) 0
  if run.isEmpty then none
  else
    match ds.drop run.length with
    | [] => some n
    | ['b'] => some (n * 512)
    | ['B'] => some (n * 1024)
    | _ => none

/-- The operands without an offset, and the offset. -/
def offsets (traditional : Bool) (operands : List String) : List String × Option Nat :=
  match operands with
  | [a] =>
    match if traditional || a.toList.head? = some '+' then offset? a else none with
    | some n => ([], some n)
    | none => (operands, none)
  | [a, b] =>
    match if traditional || b.toList.head?.any (fun c => c == '+' || c.isDigit) then offset? b else none with
    | some n => ([a], some n)
    | none => (operands, none)
  | _ => (operands, none)

/-- The styles that options ask for, in their order. -/
def stylesOf (options : List (Char × String)) : Except String (List Style) := do
  let found ← options.mapM fun (c, v) =>
    if c = 't' then styles v (v.length + 1) v.toList
    else .ok ((lettersOfStyles.find? (·.1 == c)).map (·.2)).toList
  return found.flatten

end Dump

/-- The beginning of an input; the standard one is not read any further. -/
def beginningOf (limit : Option Nat) (a : String) : Run (Except Fault (List Char)) := do
  match limit with
  | some n =>
    if a = "-" then
      let c ← channel? 0
      await c
      match ← remaining c with
      | .ok bs =>
        consume c bs (min n bs.length)
        return .ok ((bs.take n).map fun b => Char.ofNat b.toNat)
      | .error e => return .error e
    else return (← contents a).map (·.take n)
  | none => contents a

open Dump in
def od (args : List String) : Run Nat :=
  let known := lettered "A:aBbcDdeFfHhIij:LlN:OoS:st:vXx".toList ++ [⟨'w', "width", true, true⟩] ++
    worded [("skip-bytes", 'j', true), ("address-radix", 'A', true), ("read-bytes", 'N', true),
      ("format", 't', true), ("output-duplicates", 'v', false), ("traditional", '=', false),
      ("endian", '<', true)] ++ [⟨'S', "strings", true, true⟩]
  withOptions "od" 1 known false args fun p => do
    let refuse := fun (text : String) => fault "od" text 1
    let number := fun (c : Char) =>
      match p.value? c with
      | none => .ok none
      | some "" => .ok (some (if c = 'w' then 32 else 3))
      | some v => (amount (String.ofList ['-', c]) v).map some
    let radix := ((p.value? 'A').getD "o").toList.headD '\x00'
    let prepared : Except String (Option Nat × Option Nat × Option Nat × Option Nat × List Style) := do
      if !"doxn".toList.contains radix then
        throw ("invalid output address radix '" ++ String.singleton radix ++
          "'; it must be one character from [doxn]")
      return (← number 'j', ← number 'N', ← number 'w', ← number 'S', ← stylesOf p.options)
    match prepared with
    | .error e => refuse e
    | .ok (skipped, limit, width, least, styles) =>
      let late := "AjNStvw<".toList.any p.has
      let (files, moved) := if late then (p.operands, none) else offsets (p.has '=') p.operands
      let skip := skipped.getD (moved.getD 0)
      let styles := if styles.isEmpty then [⟨.octal, 2, false⟩] else styles
      let unit := (styles.map (·.size)).foldl max 1
      let row ← match width with
        | none => pure (if unit < 16 then 16 / unit * unit else unit)
        | some w =>
          if w ≠ 0 ∧ w % unit = 0 then pure w
          else do
            let _ ← fault "od" ("warning: invalid width " ++ toString w ++ "; using " ++ toString unit ++
              " instead") 0
            pure unit
      let base := if radix = 'n' then none else some (if radix = 'x' then 16 else if radix = 'd' then 10 else 8)
      let layout : Layout := ⟨styles, row, base, p.has 'v', ((p.value? '<').getD "").toList.head? == some 'b'⟩
      let (texts, status, read, _) ← (if files.isEmpty then ["-"] else files).foldlM
        (fun ((texts, status, read, left) : List (List Char) × Nat × Bool × Option Nat) a => do
          if left = some 0 then pure (texts, status, read, left)
          else
            match ← beginningOf left a with
            | .ok cs => return (texts ++ [cs], status, true, left.map (· - cs.length))
            | .error e =>
              let directory := reason e = Errno.isDirectory.text
              return (texts, max status (← fault "od" (shown a ++ ": " ++ reason e) 1), read || directory, left))
        ([], 0, limit == some 0, limit.map (· + skip))
      let bytes := texts.flatten
      if bytes.length < skip then refuse "cannot skip past end of combined input"
      else if !read then pure status
      else
        match least with
        | some least =>
          for (place, text) in Dump.texts least (bytes.length + 1) skip [] (bytes.drop skip) do
            out (layout.address place ++ (if base.isNone then [] else [' ']) ++ text ++ ['\n'])
          pure status
        | none =>
          let shown := layout.rows (bytes.length + 1) skip none false (bytes.drop skip)
          for line in shown do out line
          if base.isSome then out ['\n']
          pure status

end Stepwise.Shell.Tools
