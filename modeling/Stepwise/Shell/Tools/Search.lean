import Stepwise.Shell.Regex.Ordered
import Stepwise.Shell.Regex.Reader
import Stepwise.Shell.Tools.Paths

/-!
Looking for lines that match a pattern: `grep`.
-/

namespace Stepwise.Shell.Tools

open Run

/-- Which lines are looked for. The patterns may say themselves in which order they match. -/
structure Sieve where
  patterns : List Regex
  ordered : Bool
  folding : Bool
  inverted : Bool
  words : Bool
  wholeLines : Bool

namespace Sieve

/-- A line as what is searched. -/
def subject (s : Sieve) (line : List Char) : Regex.Subject :=
  ⟨(Letters.ofBytes line).toArray, s.folding, true, s.ordered⟩

/-- Whether a match may count: words and lines have to be whole if that is asked for. -/
def accepts (s : Sieve) (t : Regex.Subject) (i j : Nat) : Bool :=
  (!s.wholeLines || (i = 0 && j = t.text.size)) &&
    (!s.words || (!(0 < i && t.wordAt (i - 1)) && !t.wordAt j))

/-- The first match of a pattern that counts. -/
def firstOf (s : Sieve) (t : Regex.Subject) (r : Regex) : Nat → Nat → Option (Nat × Nat)
  | 0, _ => none
  | n + 1, i =>
    match r.find? t i with
    | none => none
    | some (a, e) =>
      let begins := e.start?.getD a
      if s.ordered || s.accepts t a e.position then some (begins, e.position)
      else
        match Regex.longest ((r.waysFrom t a).filter fun e => s.accepts t a e.position) with
        | some e => some (a, e.position)
        | none => if a < t.text.size then firstOf s t r n (a + 1) else none

/-- The first match at a position or after it that counts, the longest of those that begin there. -/
def first (s : Sieve) (t : Regex.Subject) (i : Nat) : Option (Nat × Nat) :=
  (s.patterns.filterMap fun r => s.firstOf t r (t.text.size + 1) i).foldl
    (fun (best : Option (Nat × Nat)) m => match best with
      | some b => if m.1 < b.1 || (m.1 = b.1 && b.2 < m.2) then some m else best
      | none => some m) none

/-- Whether a line is one of those looked for. -/
def keeps (s : Sieve) (line : List Char) : Bool := (s.first (s.subject line) 0).isSome != s.inverted

/-- The parts of a line that match. -/
def parts (s : Sieve) (t : Regex.Subject) : Nat → Nat → List (Nat × Nat)
  | 0, _ => []
  | n + 1, i =>
    match s.first t i with
    | none => []
    | some (a, b) =>
      if a = b then if a < t.text.size then parts s t n (a + 1) else []
      else (a, b) :: parts s t n b

/-- An expression that has to match whole words or lines. -/
def bounded (words wholeLines : Bool) (r : Regex) : Regex :=
  let letter := Regex.among false [.word]
  if wholeLines then .andThen (.border .start) (.andThen r (.border .finish))
  else if words then .andThen (.lookBehind false letter) (.andThen r (.lookAhead false letter))
  else r

end Sieve

/-- How lines that are found are shown: the ways to title them, the lines around them, what stands
between groups of them, whether only what matches is shown, and colours. -/
structure Showing where
  title : Option String
  bare : Bool
  numbers : Bool
  offsets : Bool
  tabs : Bool
  before : Option Nat
  after : Option Nat
  gap : Option String
  only : Bool
  coloured : Bool
  ending : Char

namespace Showing

/-- A text in a colour. -/
def painted (w : Showing) (colour : String) (s : List Char) : List Char :=
  if w.coloured then
    let escape := "\x1b[".toList
    escape ++ colour.toList ++ 'm' :: escape ++ 'K' :: s ++ escape ++ 'm' :: escape ++ ['K']
  else s

/-- What stands in front of a line, its number and its offset being given. -/
def head (w : Showing) (sep : Char) (number offset : Nat) (isEmpty : Bool) : List Char :=
  let sign := w.painted "36" [sep]
  let count := fun (n : Nat) =>
    let ds := (toString n).toList
    w.painted "32" ((if w.tabs && ds.length < 2 then [' '] else []) ++ ds) ++ sign
  let title := w.title.elim [] fun s => w.painted "35" s.toList ++ (if w.bare then ['\x00'] else sign)
  title ++ (if w.numbers then count number else []) ++ (if w.offsets then count offset else []) ++
    (if w.tabs && !isEmpty && (w.title.isSome || w.numbers || w.offsets) then ['\t'] else [])

/-- The bytes in front of a position. -/
def bytesBefore (t : Regex.Subject) (i : Nat) : Nat := (Letters.toBytes (t.slice 0 i)).length

/-- A line as it is shown, whether or not it is one of those looked for. -/
def line (w : Showing) (s : Sieve) (hit : Bool) (number offset : Nat) (l : List Char) : List Char :=
  let sep := if hit then ':' else '-'
  let t := s.subject l
  if w.only then
    if hit == s.inverted then []
    else
      (s.parts t (t.text.size + 1) 0).flatMap fun m =>
        w.head sep number (offset + bytesBefore t m.1) false ++
          w.painted "01;31" (Letters.toBytes (t.slice m.1 m.2)) ++ [w.ending]
  else if w.coloured then
    let ms := s.parts t (t.text.size + 1) 0
    let middle := ms.foldl (fun (acc : List Char × Nat) m =>
      (acc.1 ++ Letters.toBytes (t.slice acc.2 m.1) ++
        w.painted "01;31" (Letters.toBytes (t.slice m.1 m.2)), m.2)) ([], 0)
    w.head sep number offset l.isEmpty ++ middle.1 ++ Letters.toBytes (t.slice middle.2 t.text.size) ++ [w.ending]
  else w.head sep number offset l.isEmpty ++ l ++ [w.ending]

/-- The lines that are shown, with their numbers, true for those looked for; `stop` is the first that may
not be. -/
def chosen (w : Showing) (stop : Nat) (marks : List Bool) : List (Nat × Bool) :=
  let hits := marks.toArray
  let before := w.before.getD 0
  let after := w.after.getD 0
  let near := fun (i : Nat) =>
    (List.range (before + after + 1)).any fun k => i + before ≥ k && hits.getD (i + before - k) false
  (List.range (min stop marks.length)).filterMap fun i => if near i then some (i, hits.getD i false) else none

/-- Lines as they are shown; tells whether one was held back because its bytes spell no letters. -/
def text (w : Showing) (s : Sieve) (plain : Bool) (stop : Nat) (ls : List (List Char)) (marks : List Bool) :
    List Char × Bool :=
  let lines := ls.toArray
  let offsets := (ls.foldl (fun (acc : Nat × List Nat) l => (acc.1 + l.length + 1, acc.1 :: acc.2)) (0, [])).2.reverse.toArray
  let shown := w.chosen stop marks
  let step := fun (acc : List Char × Bool × Option Nat) (x : Nat × Bool) =>
    if acc.2.1 then acc
    else
      let l := lines.getD x.1 []
      let apart := acc.2.2.any (· + 1 < x.1) && (w.before.isSome || w.after.isSome)
      let gap := match apart, w.gap with
        | true, some g => w.painted "36" g.toList ++ ['\n']
        | _, _ => []
      if !plain && (Letters.ofBytes l).any Letters.isStray then (gap.reverse ++ acc.1, true, acc.2.2)
      else ((gap ++ w.line s x.2 (x.1 + 1) (offsets.getD x.1 0) l).reverse ++ acc.1, false, some x.1)
  let r := shown.foldl step ([], false, none)
  (r.1.reverse, r.2.1)

end Showing

def grepOptions : List Option_ :=
  lettered "0123456789A:B:C:D:EFGHILPTUVX:abcd:e:f:hiLlm:noqRrsuvwxyZz".toList ++
    worded [("basic-regexp", 'G', false), ("extended-regexp", 'E', false), ("fixed-regexp", 'F', false),
      ("fixed-strings", 'F', false), ("perl-regexp", 'P', false), ("after-context", 'A', true),
      ("before-context", 'B', true), ("binary", 'U', false), ("binary-files", '#', true),
      ("byte-offset", 'b', false), ("context", 'C', true)] ++
    [⟨'K', "color", true, true⟩, ⟨'K', "colour", true, true⟩] ++
    worded [("count", 'c', false), ("devices", 'D', true), ("directories", 'd', true), ("exclude", '-', true),
      ("exclude-from", '<', true), ("exclude-dir", '/', true), ("file", 'f', true),
      ("files-with-matches", 'l', false), ("files-without-match", 'L', false), ("group-separator", '=', true),
      ("include", '+', true), ("ignore-case", 'i', false), ("no-ignore-case", '!', false),
      ("initial-tab", 'T', false), ("label", ':', true), ("line-buffered", '_', false),
      ("line-number", 'n', false), ("line-regexp", 'x', false), ("max-count", 'm', true),
      ("no-filename", 'h', false), ("no-group-separator", '~', false), ("no-messages", 's', false),
      ("null", 'Z', false), ("null-data", 'z', false), ("only-matching", 'o', false), ("quiet", 'q', false),
      ("recursive", 'r', false), ("dereference-recursive", 'R', false), ("regexp", 'e', true),
      ("invert-match", 'v', false), ("silent", 'q', false), ("text", 'a', false),
      ("unix-byte-offsets", 'u', false), ("with-filename", 'H', false), ("word-regexp", 'w', false)]

/-- How `grep` is used. -/
def grepUsage : String := "Usage: grep [OPTION]... PATTERNS [FILE]...\nTry 'grep --help' for more information.\n"

/-- Whether a name is one of those that are searched. -/
def isSearched (p : Parsed) (name : String) : Bool :=
  let rules := p.options.filter fun o => o.1 = '+' || o.1 = '-'
  let covers := fun (o : Char × String) => Mark.covers (Finding.patternOf o.2) name.toList
  match rules.reverse.find? covers with
  | some o => o.1 = '+'
  | none => !(rules.any fun o => o.1 = '+')

/-- The files that are searched; directories are gone through, and links in them left alone unless all
are followed. -/
def searched (p : Parsed) : Nat → Bool → String → Run (List String)
  | 0, _, _ => pure []
  | n + 1, named, a => do
    let linked := match ← nodeAt false a with
      | .ok (.link _) => true
      | _ => false
    if linked && !named && !p.has 'R' then pure []
    else if ← isDirectory a then
      let last := (a.splitToList (· == '/')).getLastD ""
      let left := (p.options.filter (·.1 == '/')).any fun o => Mark.covers (Finding.patternOf o.2) last.toList
      if left && !named then pure []
      else
        let below ← (← namesIn a).mapM fun name => searched p n false (inDirectory a name)
        pure below.flatten
    else
      let last := (a.splitToList (· == '/')).getLastD ""
      pure (if isSearched p last then [a] else [])

/-- Shows the lines of a text that are looked for; tells whether there are any. -/
def sift (p : Parsed) (s : Sieve) (w : Showing) (name : String) (cs : List Char) : Run Bool := do
  let ls := (Text.splitAt w.ending cs)
  let ls := if ls.getLast? == some [] then ls.dropLast else ls
  let most := match (p.value? 'm').bind String.toInt? with
    | some m => if m < 0 then ls.length else m.toNat
    | none => ls.length
  let hits := ls.map s.keeps
  let counted := hits.foldl (fun (acc : List Bool × Nat × Option Nat × Nat) h =>
    let (marks, found, stop, i) := acc
    if h && found < most then (true :: marks, found + 1, stop, i + 1)
    else (false :: marks, found, if h && stop.isNone then some i else stop, i + 1)) ([], 0, none, 0)
  let marks := counted.1.reverse
  let found := counted.2.1
  let stop := counted.2.2.1.getD ls.length
  let ended := if p.has 'Z' then "\x00" else "\n"
  let listing := (p.options.reverse.find? fun o => o.1 = 'l' || o.1 = 'L').map (·.1)
  let binary := (p.value? '#').getD (if p.has 'a' then "text" else if p.has 'I' then "without-match" else "binary")
  let nulls := w.ending != '\x00' && cs.contains '\x00'
  if nulls && binary = "without-match" then pure false
  else
    if p.has 'q' then pure ()
    else if listing = some 'l' then
      if 0 < found then out (w.painted "35" name.toList ++ ended.toList)
    else if listing = some 'L' then
      if found = 0 then out (w.painted "35" name.toList ++ ended.toList)
    else if p.has 'c' then
      let title := w.title.elim [] fun t =>
        w.painted "35" t.toList ++ (if w.bare then ['\x00'] else w.painted "36" [':'])
      out (title ++ (toString found ++ "\n").toList)
    else
      let plain := binary = "text" || w.ending = '\x00'
      let (text, held) := if nulls && !plain then ([], decide (0 < found)) else w.text s plain stop ls marks
      out text
      if held && !p.has 's' then write 2 ("grep: " ++ name ++ ": binary file matches\n")
    pure (0 < found)

/-- The expressions for the patterns of a search, and the signs in them that mean nothing. -/
def patternsOf (p : Parsed) (kind : Char) (texts : List (List Char)) : Except String (List Regex × List Char) :=
  let folding := p.has 'i'
  if kind = 'P' then
    match texts with
    | [cs] =>
      match Regex.Ordered.read folding (p.has 'z') (Letters.ofBytes cs) with
      | .ok r => .ok ([Sieve.bounded (p.has 'w') (p.has 'x') r], [])
      | .error e => .error e.message
    | _ => .error "the -P option only supports a single pattern"
  else if kind = 'F' then .ok (texts.map fun cs => Regex.literally (Letters.ofBytes cs), [])
  else
    match texts.mapM fun cs => Regex.read (.searching (kind = 'E')) (Letters.ofBytes cs) with
    | .error e => .error e.message
    | .ok rs =>
      if rs.any (·.colons) then .error Regex.Flaw.colons.message
      else .ok (rs.map (·.regex), rs.flatMap (·.skipped))

/-- The number of lines around that an option asks for. -/
def contextOf (p : Parsed) (c : Char) : Except String (Option Nat) :=
  match p.value? c with
  | none => .ok none
  | some s =>
    match String.toNat? s with
    | some n => .ok (some n)
    | none => .error (s ++ ": invalid context length argument")

/-- What is wrong with the values of options. -/
def flawOf? (p : Parsed) : Option String :=
  let kinds := (p.options.filter fun o => "EFGP".toList.contains o.1).map (·.1)
  let context := "ABC".toList.findSome? fun c => match contextOf p c with
    | .error e => some e
    | .ok _ => none
  if kinds.any (· != kinds.headD ' ') then some "conflicting matchers specified"
  else if context.isSome then context
  else if (p.value? 'm').any fun m => (String.toInt? m).isNone then some "invalid max count"
  else if (p.value? '#').any fun b => ! ["text", "binary", "without-match"].contains b then
    some "unknown binary-files type"
  else none

/-- Whether case counts not, by the last option about it. -/
def isFolding (p : Parsed) : Bool :=
  ((p.options.reverse.find? fun o => o.1 = 'i' || o.1 = 'y' || o.1 = '!').map (·.1 != '!')).getD false

def grep (args : List String) : Run Nat := do
  let steps := args.foldl (fun n a => n + a.length + 1) 1
  match parse grepOptions false steps [] [] args with
  | .error e =>
    write 2 ("grep: " ++ e ++ "\n" ++ grepUsage)
    pure 2
  | .ok p =>
    let p := if isFolding p then { p with options := ('i', "") :: p.options }
      else { p with options := p.options.filter (·.1 != 'i') }
    if let some e := flawOf? p then
      return ← fault "grep" e 2
    if p.has 'u' then write 2 "grep: warning: --unix-byte-offsets (-u) is obsolete\n"
    let listed ← (p.options.filter (·.1 == 'f')).mapM fun o => return (o.2, ← contents o.2)
    let given := (p.options.filter (·.1 == 'e')).map (·.2)
    let implied := given.isEmpty && listed.isEmpty
    if implied && p.operands.isEmpty then
      write 2 grepUsage
      return 2
    if let some (a, .error e) := listed.find? fun x => !x.2.isOk then
      return ← fault "grep" (a ++ ": " ++ reason e) 2
    let texts := (if implied then [p.operands.headD ""] else given).flatMap fun s => Text.splitAt '\n' s.toList
    let texts := texts ++ listed.flatMap fun x => linesOf (x.2.toOption.getD [])
    let kind := ((p.options.find? fun o => "EFGP".toList.contains o.1).map (·.1)).getD 'G'
    match patternsOf p kind texts with
    | .error e => fault "grep" e 2
    | .ok (patterns, skipped) =>
      for c in skipped do
        let sign := if c = '\x7b' then "\x7b...\x7d" else String.singleton c
        write 2 ("grep: warning: " ++ sign ++ " at start of expression\n")
      let s : Sieve := ⟨patterns, kind = 'P', kind != 'P' && p.has 'i', p.has 'v', p.has 'w', p.has 'x'⟩
      let operands := if implied then p.operands.drop 1 else p.operands
      let deep := p.has 'r' || p.has 'R' || p.value? 'd' == some "recurse"
      let here := deep && operands.isEmpty
      let directories ← operands.filterM isDirectory
      let files ← if !deep then pure (if operands.isEmpty then ["-"] else operands)
        else if here then (List.map fun a => String.ofList (a.toList.drop 2)) <$> searched p deepest true "."
        else List.flatten <$> operands.mapM (searched p deepest true)
      let files := if deep then files
        else files.filter fun a => isSearched p ((a.splitToList (· == '/')).getLastD "") || a = "-"
      let titled := (here || (deep && !directories.isEmpty) || 1 < operands.length || p.has 'H') && !p.has 'h'
      let digits := (p.options.filter fun o => o.1.isDigit).map (·.1)
      let around := if digits.isEmpty then (contextOf p 'C').toOption.getD none else (String.ofList digits).toNat?
      let before := ((contextOf p 'B').toOption.getD none) <|> around
      let after := ((contextOf p 'A').toOption.getD none) <|> around
      let gap := if p.has '~' then none else some ((p.value? '=').getD "--")
      let most := ((p.value? 'm').bind String.toInt?)
      let brief := p.has 'q' || p.has 'l' || p.has 'L' || most == some 1 || most == some 0
      let (found, failed, _) ← files.foldlM (fun (found, failed, done) a => do
        if done || (most == some 0) then pure (found, failed, done)
        else
          let name := if a = "-" then (p.value? ':').getD "(standard input)" else a
          let w : Showing := ⟨if titled then some name else none, p.has 'Z', p.has 'n', p.has 'b', p.has 'T',
            before, after, gap, p.has 'o', p.value? 'K' == some "always" || p.value? 'K' == some "yes" ||
              p.value? 'K' == some "force", if p.has 'z' then '\x00' else '\n'⟩
          if p.value? 'd' == some "skip" && (← isDirectory a) then pure (found, failed, done)
          else if !brief && (← isOutput a) then
            let _ ← fault "grep" (name ++ ": input file is also the output") 2
            pure (found, true, done)
          else
            match ← contents a with
            | .ok cs =>
              let any ← sift p s w name cs
              pure (found || any, failed, any && p.has 'q')
            | .error e =>
              if !p.has 's' then
                let _ ← fault "grep" (a ++ ": " ++ reason e) 2
              pure (found, true, done)) (false, false, false)
      pure (if failed && !(found && p.has 'q') then 2 else if found then 0 else 1)

end Stepwise.Shell.Tools
