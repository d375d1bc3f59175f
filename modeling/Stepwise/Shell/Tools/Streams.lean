import Stepwise.Shell.Format
import Stepwise.Shell.Tools.Basic

/-!
Programs that pass text on, whole or in part: `cat`, `tac`, `rev`, `head`, `tail`, `tee`, `wc`, `nl`,
`fold`, `seq` and `yes`.
-/

namespace Stepwise.Shell.Tools

open Run

/-- A byte in visible form. -/
def visible (ends tabs : Bool) (c : Char) : List Char :=
  let n := c.toNat
  let plain := fun (n : Nat) =>
    if n < 32 then ['^', Char.ofNat (n + 64)] else if n = 127 then ['^', '?'] else [Char.ofNat n]
  if c = '\t' then (if tabs then ['^', 'I'] else [c])
  else if c = '\n' then (if ends then ['$', c] else [c])
  else if n < 128 then plain n
  else 'M' :: '-' :: plain (n - 128)

/-- How `cat` changes lines: which ones it numbers, and whether it drops blank lines after another. -/
structure Numbering where
  all : Bool
  filled : Bool
  squeezed : Bool

/-- Text with its lines numbered on from a number; `fresh` tells that a line begins, `blank` that the
line before it was empty. -/
def numbered (how : Numbering) : List (List Char) → Nat → Bool → Bool → List (List Char) × Nat × Bool × Bool
  | [], n, fresh, blank => ([], n, fresh, blank)
  | l :: ls, n, fresh, blank =>
    let isBlank := fresh && l == ['\n']
    if how.squeezed && isBlank && blank then numbered how ls n true true
    else
      let counts := fresh && (if how.filled then !isBlank else how.all)
      let line := if counts then (aligned 6 (n + 1)).toList ++ '\t' :: l else l
      let r := numbered how ls (if counts then n + 1 else n) (l.getLast? == some '\n') isBlank
      (line :: r.1, r.2)

/-- The lines of a text with their ends. -/
def linesWithEnds (cs : List Char) : List (List Char) :=
  let ls := (linesOf cs).map (· ++ ['\n'])
  if isCut cs then ls.dropLast ++ (ls.getLast?.map List.dropLast).toList else ls

def cat (args : List String) : Run Nat := do
  let known := lettered "AbeEnstTuv".toList ++
    worded [("show-all", 'A', false), ("number-nonblank", 'b', false), ("show-ends", 'E', false),
      ("number", 'n', false), ("squeeze-blank", 's', false), ("show-tabs", 'T', false),
      ("show-nonprinting", 'v', false)]
  withOptions "cat" 1 known false args fun p => do
    let how : Numbering := ⟨p.has 'n', p.has 'b', p.has 's'⟩
    let ends := p.has 'A' || p.has 'e' || p.has 'E'
    let tabs := p.has 'A' || p.has 't' || p.has 'T'
    let marks := p.has 'A' || p.has 'e' || p.has 't' || p.has 'v'
    let shape := fun (cs : List Char) =>
      if marks then cs.flatMap (visible ends tabs)
      else if ends || tabs then cs.flatMap fun c =>
        if c = '\t' && tabs then ['^', 'I'] else if c = '\n' && ends then ['$', '\n'] else [c]
      else cs
    if !(how.all || how.filled || how.squeezed) then
      eachInput "cat" (fun _ cs => out (shape cs)) p.operands
    else
      let (_, status) ← (if p.operands.isEmpty then ["-"] else p.operands).foldlM
        (fun ((n, fresh, blank), status) a => do
          match ← contents a with
          | .ok cs =>
            let (ls, state) := numbered how (linesWithEnds cs) n fresh blank
            out (ls.flatMap shape)
            pure (state, status)
          | .error e => return ((n, fresh, blank), max status (← fault "cat" (shown a ++ ": " ++ reason e) 1)))
        ((0, true, false), 0)
      pure status

def tac (args : List String) : Run Nat :=
  withOptions "tac" 1 [] false args fun p =>
    forEach (fun a => do
      match ← contents a with
      | .ok cs =>
        out ((linesWithEnds cs).reverse.flatten)
        pure 0
      | .error e =>
        if reason e = Errno.isDirectory.text then fault "tac" (shown a ++ ": read error: " ++ reason e) 1
        else fault "tac" ("failed to open " ++ quoted a ++ " for reading: " ++ reason e) 1)
      (if p.operands.isEmpty then ["-"] else p.operands)

/-- The characters that bytes spell, each with its bytes. -/
def clusters (cs : List Char) : List (List Char) :=
  (textOf (cs.map fun c => UInt8.ofNat c.toNat)).toList.map fun c => (spelled (String.singleton c)).toList

def rev (args : List String) : Run Nat :=
  withOptions "rev" 1 [] false args fun p =>
    forEach (fun a => do
      match ← contents a with
      | .ok cs =>
        out (relines (isCut cs) ((linesOf cs).map fun l => (clusters l).reverse.flatten))
        pure 0
      | .error e => fault "rev" ("cannot open " ++ a ++ ": " ++ reason e) 1)
      (if p.operands.isEmpty then ["-"] else p.operands)

/-- A count with a letter that multiplies it. -/
def multiplied? (s : String) : Option Nat :=
  let ds := s.toList.takeWhile Char.isDigit
  let unit := String.ofList (s.toList.drop ds.length)
  let powers := [("", 1), ("b", 512), ("kB", 1000), ("k", 1024), ("K", 1024), ("KiB", 1024), ("MB", 1000000),
    ("M", 1048576), ("m", 1048576), ("MiB", 1048576), ("GB", 1000000000), ("G", 1073741824)]
  match (String.ofList ds).toNat?, powers.find? (·.1 == unit) with
  | some n, some p => some (n * p.2)
  | _, _ => none

/-- How much of a text is meant: lines or bytes, a number of them, and a sign in front of it. -/
structure Portion where
  byLine : Bool
  sign : Char
  count : Nat

/-- Arguments in which a number after a dash, or after a plus sign if that is allowed, is the number of
lines. -/
def modern (plus : Bool) : List String → List String
  | a :: rest =>
    match a.toList with
    | '+' :: ds =>
      if plus && !ds.isEmpty && ds.all Char.isDigit && rest.length < 2 then "-n" :: a :: rest else a :: rest
    | '-' :: c :: cs =>
      let ds := (c :: cs).takeWhile Char.isDigit
      if ds.isEmpty then a :: rest
      else
        let unit := (c :: cs).drop ds.length
        if unit == ['c'] then "-c" :: String.ofList ds :: rest else "-n" :: String.ofList ds :: rest
    | _ => a :: rest
  | [] => []

/-- The portion that options ask for, or the text that is no number. -/
def portionOf (p : Parsed) : Except String Portion :=
  match p.options.reverse.find? fun o => o.1 == 'n' || o.1 == 'c' with
  | none => .ok ⟨true, ' ', 10⟩
  | some (letter, s) =>
    let sign := match s.toList with
      | '-' :: _ => '-'
      | '+' :: _ => '+'
      | _ => ' '
    let digits := if sign = ' ' then s else String.ofList (s.toList.drop 1)
    let flaw := "invalid number of " ++ (if letter = 'n' then "lines" else "bytes") ++ ": " ++ named digits
    match multiplied? digits with
    | some n =>
      if n < Nat.pow 2 64 then .ok ⟨letter == 'n', sign, n⟩
      else .error (flaw ++ ": Value too large for defined data type")
    | none => .error flaw

/-- Leaves the last bytes that were taken off the standard input to others, if it is a file. -/
def giveBack (n : Nat) : Run Unit := do
  match ← channel? 0 with
  | some (.file i) =>
    modify fun m => { m with opened := m.opened.modify i fun f => { f with offset := f.offset - n } }
  | _ => pure ()

/-- Passes a portion of each input on, under the names of the inputs if there are several. -/
def portions (tool : String) (cut : Portion → List Char → List Char) (args : List String) : Run Nat := do
  let known := worded [("lines", 'n', true), ("bytes", 'c', true), ("quiet", 'q', false),
      ("silent", 'q', false), ("verbose", 'v', false)] ++ lettered "qvzfF".toList
  withOptions tool 1 known false (modern (tool == "tail") args) fun p => do
    match portionOf p with
    | .error flaw => fault tool flaw 1
    | .ok portion =>
      let files := if p.operands.isEmpty then ["-"] else p.operands
      let titled := !p.has 'q' && (p.has 'v' || 1 < files.length)
      let (_, status) ← files.foldlM (fun (first, status) a => do
        let title := fun (lead : Bool) =>
          if titled then
            write 1 ((if lead then "" else "\n") ++ "==> " ++ (if a = "-" then "standard input" else a) ++ " <==\n")
          else pure ()
        match ← contents a with
        | .ok cs =>
          title first
          out (cut portion cs)
          if a = "-" && tool = "head" then giveBack (cs.length - (cut portion cs).length)
          pure (false, status)
        | .error e =>
          if reason e = Errno.isDirectory.text then
            title first
            return (false, max status (← fault tool ("error reading " ++ quoted a ++ ": " ++ reason e) 1))
          else
            return (first, max status
              (← fault tool ("cannot open " ++ quoted a ++ " for reading: " ++ reason e) 1))) (true, 0)
      pure status

def head : List String → Run Nat := portions "head" fun p cs =>
  if p.byLine then
    let ls := linesWithEnds cs
    (ls.take (if p.sign = '-' then ls.length - p.count else p.count)).flatten
  else cs.take (if p.sign = '-' then cs.length - p.count else p.count)

def tail : List String → Run Nat := portions "tail" fun p cs =>
  if p.byLine then
    let ls := linesWithEnds cs
    (ls.drop (if p.sign = '+' then p.count - 1 else ls.length - p.count)).flatten
  else cs.drop (if p.sign = '+' then p.count - 1 else cs.length - p.count)

def tee (args : List String) : Run Nat :=
  withOptions "tee" 1 (lettered "aip".toList ++ worded [("append", 'a', false)]) false args fun p => do
    let bs := (← readAll).toOption.getD []
    writeBytes 1 bs
    forEach (fun a => do
      let path ← locate a
      match device? path with
      | some (.descriptor n) =>
        writeBytes n bs
        pure 0
      | some _ => pure 0
      | none =>
        match ← store path fun old => if p.has 'a' then old ++ bs else bs with
        | none => pure 0
        | some e => fault "tee" (shown a ++ ": " ++ reason e) 1) p.operands

/-- The number of words in a text. -/
def wordCount (cs : List Char) : Nat :=
  (cs.foldl (fun (acc : Nat × Bool) c =>
    if isBlank c then (acc.1, false) else (if acc.2 then acc.1 else acc.1 + 1, true)) (0, false)).1

/-- What `wc` counts, in the order in which it tells it. -/
def counters : List (Char × (List Char → Nat)) :=
  [('l', fun cs => cs.countP (· == '\n')), ('w', wordCount), ('m', fun cs => (clusters cs).length),
    ('c', List.length), ('L', fun cs => ((linesOf cs).map fun l => (clusters l).length).foldl max 0)]

/-- Whether the standard input is a file. -/
def inputIsFile : Run Bool := do
  match ← channel? 0 with
  | some (.file _) => pure true
  | _ => pure false

def wc (args : List String) : Run Nat :=
  let known := lettered "lwcmL".toList ++
    worded [("lines", 'l', false), ("words", 'w', false), ("bytes", 'c', false), ("chars", 'm', false),
      ("max-line-length", 'L', false)]
  withOptions "wc" 1 known false args fun p => do
    let letters := if p.options.isEmpty then ['l', 'w', 'c'] else p.options.map (·.1)
    let wanted := counters.filter fun c => letters.contains c.1
    let files := if p.operands.isEmpty then ["-"] else p.operands
    let (rows, status) ← files.foldlM (fun (rows, status) a => do
      match ← contents a with
      | .ok cs => pure (rows ++ [(a, some cs, cs.length, a != "-")], status)
      | .error e =>
        return (rows ++ [(a, (if reason e = Errno.isDirectory.text then some [] else none), 0, false)],
          max status (← fault "wc" (shown a ++ ": " ++ reason e) 1))) ([], 0)
    let piped := !(← inputIsFile)
    let isOdd := rows.any fun (a, text, _, isFile) => text.isSome && !isFile && (a != "-" || piped)
    let total := (rows.map fun r => r.2.2.1).foldl (· + ·) 0
    let width := if files.length = 1 && wanted.length = 1 then 1
      else max (toString total).length (if isOdd then 7 else 1)
    let row := fun (ns : List Nat) (name : String) =>
      write 1 (Text.joinText " " (ns.map (aligned width)) ++ name ++ "\n")
    let counts := rows.filterMap fun (a, text, _, _) => text.map fun cs => (a, wanted.map fun c => c.2 cs)
    counts.forM fun (a, ns) => row ns (if a == "-" && p.operands.isEmpty then "" else " " ++ a)
    if 1 < files.length then
      row (counts.foldl (fun acc (_, ns) => acc.zipWith (· + ·) ns) (wanted.map fun _ => 0)) " total"
    pure status

def nl (args : List String) : Run Nat :=
  withOptions "nl" 1 (lettered "b:w:s:v:i:n:".toList) false args fun p => do
    let (texts, status) ← gather "nl" p.operands
    let number := fun (c : Char) (d : Nat) => ((p.value? c).bind String.toNat?).getD d
    let width := number 'w' 6
    let gap := (p.value? 's').getD "\t"
    let all := p.value? 'b' == some "a"
    let none_ := p.value? 'b' == some "n"
    let shown := fun (n : Nat) =>
      let s := toString n
      let missing := width - s.length
      match p.value? 'n' with
      | some "ln" => s ++ String.ofList (List.replicate missing ' ')
      | some "rz" => String.ofList (List.replicate missing '0') ++ s
      | _ => aligned width n
    let step := fun (acc : List (List Char) × Nat) (l : List Char) =>
      if !none_ && (all || !l.isEmpty) then
        (((shown acc.2) ++ gap).toList ++ l) :: acc.1 |> fun ls => (ls, acc.2 + number 'i' 1)
      else ((List.replicate (width + gap.length) ' ' ++ l) :: acc.1, acc.2)
    let (ls, _) := (linesOf texts.flatten).foldl step ([], number 'v' 1)
    out (unlines ls.reverse)
    pure status

/-- A line in pieces of at most some characters, broken after blanks if that is asked for. -/
def folded (width : Nat) (atBlanks : Bool) : Nat → List Char → List (List Char)
  | 0, cs => [cs]
  | n + 1, cs =>
    if cs.length ≤ width || width = 0 then [cs]
    else
      let piece := cs.take width
      let kept := if atBlanks && piece.contains ' ' then
          (piece.reverse.dropWhile (· != ' ')).reverse
        else piece
      kept :: folded width atBlanks n (cs.drop kept.length)

def fold (args : List String) : Run Nat :=
  withOptions "fold" 1 (lettered "w:sb".toList ++ worded [("width", 'w', true), ("spaces", 's', false)])
      false (modernWidth args) fun p =>
    let width := ((p.value? 'w').bind String.toNat?).getD 80
    eachInput "fold" (fun _ cs => out (relines (isCut cs)
      ((linesOf cs).flatMap fun l => folded width (p.has 's') l.length l))) p.operands
where
  /-- A number after a dash is the width. -/
  modernWidth : List String → List String
    | a :: rest =>
      match a.toList with
      | '-' :: c :: cs => if c.isDigit then "-w" :: String.ofList (c :: cs) :: rest else a :: rest
      | _ => a :: rest
    | [] => []

/-- A decimal number in units of some places after the point. -/
structure Decimal where
  units : Int
  places : Nat

/-- The exponent at the end of a number, and what stands before it. -/
def exponentOf (cs : List Char) : Int × List Char :=
  let before := cs.takeWhile fun c => c != 'e' && c != 'E'
  match cs.drop before.length with
  | _ :: rest =>
    let (negative, ds) := match rest with
      | '-' :: ds => (true, ds)
      | '+' :: ds => (false, ds)
      | ds => (false, ds)
    match if ds.all Char.isDigit then (String.ofList ds).toNat? else none with
    | some n => (if negative then -(n : Int) else n, before)
    | none => (0, cs)
  | [] => (0, cs)

/-- A number with an exponent of ten. -/
def Decimal.scaled (d : Decimal) (e : Int) : Decimal :=
  let more := e.toNat
  let lifted : Decimal := if d.places < more then ⟨d.units * Nat.pow 10 (more - d.places), 0⟩ else ⟨d.units, d.places - more⟩
  { lifted with places := lifted.places + (-e).toNat }

/-- The number that a text spells, in decimal or as an integer in base sixteen. -/
def Decimal.ofText? (s : String) : Option Decimal :=
  let (negative, cs) := match s.toList with
    | '-' :: rest => (true, rest)
    | '+' :: rest => (false, rest)
    | rest => (false, rest)
  let hex := readInteger true s.toList
  if (baseOf cs).1 = 16 && hex.rest.isEmpty then some ⟨hex.value, 0⟩
  else
  let (e, cs) := exponentOf cs
  let whole := cs.takeWhile Char.isDigit
  let part := match cs.drop whole.length with
    | '.' :: ds => some ds
    | [] => some []
    | _ => none
  match part with
  | some ds =>
    if ds.all Char.isDigit && !(whole.isEmpty && ds.isEmpty) then
      let n : Nat := (String.ofList (whole ++ ds)).toNat?.getD 0
      some (Decimal.scaled ⟨if negative then -n else n, ds.length⟩ e)
    else none
  | none => none

/-- The number of units of finer places. -/
def Decimal.at (d : Decimal) (places : Nat) : Int := d.units * Nat.pow 10 (places - d.places)

/-- Units as a decimal number, with zeros up to a width. -/
def decimalText (places width : Nat) (units : Int) : String :=
  let digits := toString units.natAbs
  let digits := String.ofList (List.replicate (places + 1 - digits.length) '0') ++ digits
  let cs := digits.toList
  let body := cs.take (cs.length - places) ++ (if places = 0 then [] else '.' :: cs.drop (cs.length - places))
  let sign := if units < 0 then ['-'] else []
  String.ofList (sign ++ List.replicate (width - sign.length - body.length) '0' ++ body)

def seq (args : List String) : Run Nat := do
  let known := [⟨'s', "separator", true, false⟩, ⟨'w', "equal-width", false, false⟩, ⟨'f', "format", true, false⟩]
  let isNumber := fun (a : String) => (Decimal.ofText? a).isSome
  let (front, numbers) := (args.takeWhile (!isNumber ·), args.dropWhile (!isNumber ·))
  let front := if front.getLast? == some "-s" then args.take (front.length + 1) else front
  let numbers := if front.length ≤ args.length then args.drop front.length else numbers
  withOptions "seq" 1 known true (front ++ "--" :: numbers) fun p => do
    let operands := p.operands.filter (· != "--")
    match operands.find? (!isNumber ·), operands with
    | some bad, _ => fault "seq" ("invalid floating point argument: " ++ named bad ++ hint "seq") 1
    | none, [] => fault "seq" ("missing operand" ++ hint "seq") 1
    | none, _ :: _ :: _ :: extra :: _ => fault "seq" ("extra operand " ++ named extra ++ hint "seq") 1
    | none, _ =>
      let ds := operands.filterMap Decimal.ofText?
      let one : Decimal := ⟨1, 0⟩
      let (first, step, last) := match ds with
        | [b] => (one, one, b)
        | [a, b] => (a, one, b)
        | [a, s, b] => (a, s, b)
        | _ => (one, one, one)
      let shownPlaces := max first.places step.places
      let places := max shownPlaces last.places
      let (a, s, b) := (first.at places, step.at places, last.at places)
      if s = 0 then fault "seq" ("invalid Zero increment value: " ++ named (operands.getD 1 "") ++ hint "seq") 1
      else
        let count := if 0 < s then ((b - a) / s + 1).toNat else ((a - b) / (-s) + 1).toNat
        let width := if p.has 'w' then
            max (decimalText shownPlaces 0 (first.at shownPlaces)).length
              (decimalText shownPlaces 0 (b / Nat.pow 10 (places - shownPlaces))).length
          else 0
        let texts := (List.range count).map fun (k : Nat) =>
          decimalText shownPlaces width ((a + s * (k : Int)) / Nat.pow 10 (places - shownPlaces))
        let separator := (p.value? 's').getD "\n"
        match p.value? 'f' with
        | none =>
          if !texts.isEmpty then write 1 (Text.joinText separator texts ++ "\n")
          pure 0
        | some format =>
          match flaw? format with
          | some s => fault "seq" s 1
          | none =>
            let shown := texts.map fun t => String.ofList (formatted format [t]).written.reverse
            if !shown.isEmpty then write 1 (Text.joinText separator shown ++ "\n")
            pure 0
where
  /-- Why a format is not one for numbers: it needs exactly one directive. -/
  flaw? (format : String) : Option String :=
    let rest := (Text.splitOn "%%".toList format.toList).flatten.dropWhile (· != '%')
    let after := (rest.drop 1).dropWhile fun c => c.isDigit || "#-+ 0.'".toList.contains c
    match rest, after with
    | [], _ => some ("format " ++ named format ++ " has no % directive")
    | _, [] => some ("format " ++ named format ++ " ends in %")
    | _, c :: more =>
      if !"efgaEFGA".toList.contains c then
        some ("format " ++ named format ++ " has unknown %" ++ String.singleton c ++ " directive")
      else if more.contains '%' then some ("format " ++ named format ++ " has too many % directives")
      else none

/-- As many lines as a pipe is ever asked for; anywhere else they never end. -/
def yes (args : List String) : Run Nat := do
  let line := bytes (Text.joinText " " (if args.isEmpty then ["y"] else args) ++ "\n")
  match ← channel? 1 with
  | some (.stream i) =>
    if i < 3 then throw .timeout
    else
      writeBytes 1 (List.replicate (200000 / line.length) line).flatten
      pure 0
  | some (.device .full) => fault "yes" "standard output: No space left on device" 1
  | _ => throw .timeout

end Stepwise.Shell.Tools
