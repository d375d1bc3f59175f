import Stepwise.Shell.Editor.Script
import Stepwise.Shell.Regex.Reader

/-!
Signs with a backslash in scripts that edit lines: characters by number, control characters, and what
a replacement is made of.
-/

namespace Stepwise.Shell.Editor

/-- Where a sign with a backslash stands: in an expression, in what replaces a match, in a list of
characters, or in text that is put in. -/
inductive Setting
  | expression
  | replacement
  | characters
  | text
  deriving DecidableEq, Repr

/-- The value of a digit in some base. -/
def digitIn? (base : Nat) (c : Char) : Option Nat :=
  let v := if c.isDigit then some (c.toNat - 48)
    else if 'a' ≤ c.toLower ∧ c.toLower ≤ 'f' then some (c.toLower.toNat - 87) else none
  v.filter (· < base)

/-- The byte that a number after a backslash and a letter denotes, and what follows; none if there is no
digit. -/
def numbered? (base most : Nat) (cs : List Char) : Option (Char × List Char) :=
  let ds := (cs.take most).takeWhile fun c => (digitIn? base c).isSome
  if ds.isEmpty then none
  else
    let n := ds.foldl (fun n c => n * base + (digitIn? base c).getD 0) 0
    some (Char.ofNat (n % 256), cs.drop ds.length)

/-- The character that a letter after a backslash means. -/
def control? : Char → Option Char
  | 'a' => some '\x07'
  | 'f' => some '\x0c'
  | 'n' => some '\n'
  | '\n' => some '\n'
  | 'r' => some '\r'
  | 't' => some '\t'
  | 'v' => some '\x0b'
  | _ => none

/-- A text with characters in place of numbers and control letters; other signs with a backslash stay as
they are. None if a backslash comes after one that makes a control character. -/
def normalized (setting : Setting) : Nat → List Char → Option (List Char)
  | 0, cs => some cs
  | n + 1, cs =>
    match cs with
    | '\\' :: c :: rest =>
      let number := fun (base most : Nat) =>
        match numbered? base most rest with
        | some (d, after) =>
          let literal := setting = .replacement ∧ (d = '&' ∨ d = '\\' ∨ d = '\n') ∨
            setting = .text ∧ d = '\\' ∨ setting = .characters ∧ d = '\\'
          (normalized setting n after).map fun ds => if literal then '\\' :: d :: ds else d :: ds
        | none => (normalized setting n rest).map (c :: ·)
      match control? c with
      | some d => (normalized setting n rest).map (d :: ·)
      | none =>
        if c = 'd' then number 10 3
        else if c = 'o' then number 8 3
        else if c = 'x' then number 16 2
        else if c = 'c' then
          match rest with
          | '\\' :: '\\' :: after => (normalized setting n after).map ('\x1c' :: ·)
          | '\\' :: _ => none
          | d :: after => (normalized setting n after).map (Char.ofNat (d.toUpper.toNat.xor 64) :: ·)
          | [] => some ['\\']
        else (normalized setting n rest).map ('\\' :: c :: ·)
    | c :: rest => (normalized setting n rest).map (c :: ·)
    | [] => some []

/-- The parts of a replacement. -/
def Replacement.parts : List Char → List Replacement
  | '\\' :: c :: rest =>
    if c.isDigit then .group (c.toNat - 48) :: parts rest
    else if "UuLlE".toList.contains c then .casing c :: parts rest
    else .text [c] :: parts rest
  | '&' :: rest => .group 0 :: parts rest
  | c :: rest => .text [c] :: parts rest
  | [] => []

/-- A list of characters without backslashes. -/
def plainCharacters : List Char → List Char
  | '\\' :: c :: rest => c :: plainCharacters rest
  | c :: rest => c :: plainCharacters rest
  | [] => []

end Stepwise.Shell.Editor

/-!
Reading scripts that edit lines. A script is made of pieces, each an expression that was given or the
text of a file; complaints tell the piece and the place in it.
-/

namespace Stepwise.Shell.Editor

/-- A complaint about a script, with its place if there is one. -/
structure Complaint where
  place : Option Spot
  why : String
  status : Nat

/-- A complaint in full. -/
def Complaint.message (c : Complaint) : String := c.place.elim "" (·.shown ++ ": ") ++ c.why

/-- How far reading has come: the piece, what is left of it, the steps, the blocks that are open, and a
step whose text goes on in the next piece. -/
structure Progress where
  origin : Origin
  piece : List Char
  rest : List Char
  steps : Array Step
  opened : List (Nat × Spot)
  pending : Option (List Char)
  quiet : Bool
  extended : Bool
  sandboxed : Bool

/-- Reading a script. -/
abbrev Reader := StateT Progress (Except Complaint)

namespace Reader

/-- The place reached: the characters read of an expression, or the line of a file. -/
def place : Reader Spot := do
  let p ← get
  let done := p.piece.take (p.piece.length - p.rest.length)
  match p.origin with
  | .expression n => return (.expression n, done.length)
  | .file name => return (.file name, done.count '\n' + 1)

/-- Gives up. -/
def fail {α : Type} (why : String) : Reader α := do throw ⟨some (← place), why, 1⟩

/-- What is left. -/
def rest : Reader (List Char) := do return (← get).rest

/-- Goes on with a text. -/
def goOn (cs : List Char) : Reader Unit := modify fun p => { p with rest := cs }

/-- The next character, if there is one. -/
def next : Reader (Option Char) := do
  match ← rest with
  | c :: cs =>
    goOn cs
    pure (some c)
  | [] => pure none

/-- Passes over spaces and tabs. -/
def blanks : Reader Unit :=
  modify fun p => { p with rest := p.rest.dropWhile fun c => c == ' ' || c == '\t' }

/-- The next character that is neither a space nor a tab. -/
def nextSolid : Reader (Option Char) := do
  blanks
  next

/-- The number at the beginning of what is left, zero if there is none. -/
def number : Reader Nat := do
  let cs ← rest
  let ds := cs.takeWhile Char.isDigit
  goOn (cs.drop ds.length)
  return (String.ofList ds).toNat?.getD 0

/-- A name between brackets up to its sign and a closing bracket, in front of what was read, last
characters first; and what follows. -/
def named? (sign : Char) : List Char → List Char → Option (List Char × List Char)
  | _, [] => none
  | acc, c :: ']' :: rest => if c = sign then some (']' :: c :: acc, rest) else named? sign (c :: acc) (']' :: rest)
  | acc, c :: rest => if c = '\n' then none else named? sign (c :: acc) rest

/-- What stands between brackets, in front of what was read, last characters first; and what follows. None
if the line ends before. -/
def bracketed? : Nat → Bool → List Char → List Char → Option (List Char × List Char)
  | 0, _, _, _ => none
  | n + 1, first, acc, cs =>
    match cs with
    | [] => none
    | '\n' :: _ => none
    | ']' :: rest => if first then bracketed? n false (']' :: acc) rest else some (']' :: acc, rest)
    | '[' :: c :: rest =>
      if c = '.' ∨ c = ':' ∨ c = '=' then
        match named? c (c :: '[' :: acc) rest with
        | some (acc, rest) => bracketed? n false acc rest
        | none => none
      else bracketed? n false ('[' :: acc) (c :: rest)
    | c :: rest => bracketed? n false (c :: acc) rest

/-- The text up to a sign that ends it, and what follows; none if a line or the piece ends before. A sign
with a backslash before it loses the backslash; in an expression a letter for the end of a line stands
for it, and signs between brackets end nothing. -/
def upTo (sign : Char) (expression : Bool) : Nat → List Char → List Char → Option (List Char) × List Char
  | 0, _, _ => (none, [])
  | _, _, [] => (none, [])
  | n + 1, acc, c :: rest =>
    if c = sign then (some acc.reverse, rest)
    else if c = '\n' then (none, c :: rest)
    else if c = '\\' then
      match rest with
      | [] => (none, [])
      | d :: rest =>
        if d = 'n' ∧ expression ∧ sign ≠ 'n' then upTo sign expression n ('\n' :: acc) rest
        else if d = '\n' then upTo sign expression n ('\n' :: acc) rest
        else if d = sign ∧ (expression ∨ d ≠ '&') then upTo sign expression n (d :: acc) rest
        else upTo sign expression n (d :: '\\' :: acc) rest
    else if c = '[' ∧ expression then
      let (inner, after) := match rest with
        | '^' :: after => (['^', '['], after)
        | after => (['['], after)
      match bracketed? (after.length + 1) true (inner ++ acc) after with
      | some (acc, rest) => upTo sign expression n acc rest
      | none => (none, rest.dropWhile (· != '\n'))
    else upTo sign expression n (c :: acc) rest

/-- The text up to a sign. -/
def delimited (sign : Char) (expression : Bool) (unended : String) : Reader (List Char) := do
  let cs ← rest
  let (text, after) := upTo sign expression (cs.length + 1) [] cs
  goOn after
  match text with
  | some text => pure text
  | none => fail unended

/-- The sign that comes next and is to end texts. -/
def sign (unended : String) : Reader Char := do
  match ← next with
  | none => fail unended
  | some c =>
    if 128 ≤ c.toNat then fail "delimiter character is not a single-byte character"
    else if c = '\n' then fail unended
    else pure c

/-- A text with its escapes read. -/
def plain (setting : Setting) (cs : List Char) : Reader (List Char) :=
  match normalized setting (cs.length + 1) cs with
  | some cs => pure cs
  | none => fail "recursive escaping after \\c not allowed"

/-- The matcher that a text is; none if it is empty and the one used last is meant. -/
def matcher (cs : List Char) (folding inLines : Bool) : Reader (Option Matcher) := do
  if cs.isEmpty then
    if folding || inLines then fail "cannot specify modifiers on empty regexp" else pure none
  else
    let cs ← plain .expression cs
    match Regex.read (.editing (← get).extended inLines) (Letters.ofBytes cs) with
    | .ok r => if r.colons then throw ⟨none, Regex.Flaw.colons.message, 4⟩ else pure (some ⟨r.regex, folding, inLines⟩)
    | .error e => fail e.message

/-- The letters after the expression of an address. -/
def addressFlags : Nat → Bool → Bool → Reader (Bool × Bool)
  | 0, folding, inLines => pure (folding, inLines)
  | n + 1, folding, inLines => do
    blanks
    match ← rest with
    | 'I' :: cs =>
      goOn cs
      addressFlags n true inLines
    | 'M' :: cs =>
      goOn cs
      addressFlags n folding true
    | _ => pure (folding, inLines)

/-- An address, if there is one. -/
def address? : Reader (Option Address) := do
  let containing := fun (c : Char) => do
    let text ← delimited c true "unterminated address regex"
    let (folding, inLines) ← addressFlags (← rest).length false false
    return some (.containing (← matcher text folding inLines))
  match ← rest with
  | '/' :: cs =>
    goOn cs
    containing '/'
  | '\\' :: cs =>
    goOn cs
    containing (← sign "unterminated address regex")
  | '$' :: cs =>
    goOn cs
    pure (some .last)
  | '+' :: cs =>
    goOn cs
    blanks
    let n ← number
    return some (if 0 < n then .further n else .all)
  | '~' :: cs =>
    goOn cs
    blanks
    let n ← number
    return some (if 0 < n then .multiple n else .all)
  | c :: _ =>
    if c.isDigit then
      let n ← number
      blanks
      match ← rest with
      | '~' :: cs =>
        goOn cs
        blanks
        let step ← number
        return some (if 0 < step then .every n step else .line n)
      | _ => pure (some (.line n))
    else pure none
  | [] => pure none

/-- What may stand after a step. -/
def ended : Reader Unit := do
  blanks
  match ← rest with
  | [] => pure ()
  | c :: cs =>
    if c = '\x7d' ∨ c = '#' then pure ()
    else
      goOn cs
      if c = ';' ∨ c = '\n' then pure () else fail "extra characters after command"

/-- A label. -/
def label : Reader String := do
  blanks
  let cs ← rest
  let word := cs.takeWhile fun c => !(c == ' ' || (9 ≤ c.toNat && c.toNat ≤ 13) || c == ';' || c == '\x7d' || c == '#')
  goOn (cs.drop word.length)
  return String.ofList word

/-- The name of a file, up to the end of the line. -/
def fileName : Reader String := do
  blanks
  let cs ← rest
  let word := cs.takeWhile (· != '\n')
  goOn (cs.drop (word.length + 1))
  if word.isEmpty then fail "missing filename in r/R/w/W commands"
  else return String.ofList word

/-- The text up to the end of its line, and what follows; false if a backslash at the end of the piece
asks for more. -/
def line : List Char → List Char → List Char × List Char × Bool
  | acc, [] => (acc.reverse, [], true)
  | acc, ['\\'] => (acc.reverse, [], false)
  | acc, '\\' :: c :: rest => line (c :: '\\' :: acc) rest
  | acc, '\n' :: rest => (acc.reverse, rest, true)
  | acc, c :: rest => line (c :: acc) rest

/-- The text that a step puts in: its escapes read, and a line end behind it. -/
def inserted (cs : List Char) : Reader (List Char) := do
  return plainCharacters (← plain .text cs) ++ ['\n']

/-- The same step with another text. -/
def withText (v : Verb) (cs : List Char) : Verb :=
  match v with
  | .append _ => .append cs
  | .insert _ => .insert cs
  | .change _ => .change cs
  | v => v

/-- The text that a step puts in, after its letter. A text that the piece breaks off goes on in the next
one. -/
def text (make : List Char → Verb) : Reader Verb := do
  blanks
  match ← rest with
  | [] => fail "expected \\ after \x60a', \x60c' or \x60i'"
  | cs =>
    let (cut, cs) := match cs with
      | ['\\'] => (true, [])
      | '\\' :: '\n' :: cs => (false, cs)
      | '\\' :: cs => (false, cs)
      | cs => (false, cs)
    if cut then
      modify fun p => { p with rest := [], pending := some [] }
      pure (make [])
    else
      let (words, after, whole) := line [] cs
      goOn after
      if whole then return make (← inserted words)
      else
        modify fun p => { p with pending := some (words ++ ['\\', '\n']) }
        return make (← inserted words)

/-- The flags after a substitution: the number of the first match to replace, and what is to be done. -/
def flags (matched : List Char) : Nat → Substitution → Bool → Bool → Bool → Reader Substitution
  | 0, s, _, _, _ => pure s
  | n + 1, s, counted, folding, inLines => do
    let finish : Reader Substitution := do
      let m ← matcher matched folding inLines
      match m with
      | some m =>
        let k := s.greatestGroup
        if m.regex.groups < k then fail ("invalid reference \\" ++ toString k ++ " on \x60s' command's RHS")
      | none => pure ()
      if s.carries && (← get).sandboxed then fail "e/r/w commands disabled in sandbox mode"
      return { s with matcher := m }
    match ← rest with
    | [] => finish
    | c :: cs =>
      if c = '\x7d' ∨ c = '#' then finish
      else
        goOn cs
        if c = ';' ∨ c = '\n' then finish
        else if c = ' ' ∨ c = '\t' then flags matched n s counted folding inLines
        else if c = 'i' ∨ c = 'I' then flags matched n s counted true inLines
        else if c = 'm' ∨ c = 'M' then flags matched n s counted folding true
        else if c = 'e' then flags matched n { s with carries := true } counted folding inLines
        else if c = 'p' then
          if s.shows ∨ s.showsCarried then fail "multiple \x60p' options to \x60s' command"
          else if s.carries then flags matched n { s with showsCarried := true } counted folding inLines
          else flags matched n { s with shows := true } counted folding inLines
        else if c = 'g' then
          if s.global then fail "multiple \x60g' options to \x60s' command"
          else flags matched n { s with global := true } counted folding inLines
        else if c = 'w' then
          let s := { s with file := some (← fileName) }
          if (← get).sandboxed then fail "e/r/w commands disabled in sandbox mode"
          let m ← matcher matched folding inLines
          return { s with matcher := m }
        else if c.isDigit then
          if counted then fail "multiple number options to \x60s' command"
          else
            goOn (c :: cs)
            let k ← number
            if k = 0 then fail "number option to \x60s' command may not be zero"
            else flags matched n { s with number := k } true folding inLines
        else fail "unknown option to \x60s'"

/-- A substitution, after its letter. -/
def substitution : Reader Verb := do
  let unended := "unterminated \x60s' command"
  let c ← sign unended
  let old ← delimited c true unended
  let new ← plain .replacement (← delimited c false unended)
  let s : Substitution := ⟨none, Replacement.parts new, 1, false, false, false, false, none⟩
  return .substitute (← flags old ((← rest).length + 1) s false false false)

/-- A translation of characters, after its letter. -/
def translation : Reader Verb := do
  let unended := "unterminated \x60y' command"
  let c ← sign unended
  let old ← delimited c false unended
  let new ← delimited c false unended
  let characters := fun (cs : List Char) => do
    return Letters.ofBytes (plainCharacters (← plain .characters cs))
  let old ← characters old
  let new ← characters new
  if old.length ≠ new.length then fail "strings for \x60y' command are different lengths"
  else
    ended
    return .translate (old.zip new)

/-- Whether one name of a version comes after another. Runs of digits count as numbers, and one that
begins with zeros as the part behind a point does; all other characters count by their places in the
alphabet. -/
def isNewer : Nat → Bool → List Char → List Char → Bool
  | 0, _, _, _ => false
  | n + 1, within, a, b =>
    let run := fun (cs : List Char) => cs.takeWhile Char.isDigit
    let begins := fun (cs : List Char) => cs.head?.any Char.isDigit
    if !within && begins a && begins b then
      let (x, y) := (run a, run b)
      if x = y then isNewer n false (a.drop x.length) (b.drop y.length)
      else if x.head? = some '0' ∨ y.head? = some '0' then
        let zeros := fun (cs : List Char) => (cs.takeWhile (· == '0')).length
        if zeros x = zeros y then isNewer n true (a.drop (zeros x)) (b.drop (zeros y)) else zeros x < zeros y
      else x.length > y.length || (x.length = y.length && String.ofList y < String.ofList x)
    else
      match a, b with
      | [], _ => false
      | _ :: _, [] => true
      | c :: a, d :: b => if c = d then isNewer n (within && c.isDigit) a b else d < c

/-- The version that a script asks for has to be one that is known. -/
def version : Reader Unit := do
  let word ← label
  if isNewer (word.length + 4) false word.toList "4.9".toList then fail "expected newer version of sed"

/-- What a step does, its letter being read. `single` tells whether it is for one address at most, and
`all` whether it has none. -/
def verb (single all : Bool) (c : Char) : Reader Verb := do
  let guarded : Reader Unit := do
    if (← get).sandboxed then fail "e/r/w commands disabled in sandbox mode"
  if c = 's' then substitution
  else if c = 'y' then translation
  else if c = 'a' then text .append
  else if c = 'i' then text .insert
  else if c = 'c' then text .change
  else if c = ':' then
    if !all then fail ": doesn't want any addresses"
    else
      let name ← label
      if name.isEmpty then fail "\":\" lacks a label" else pure (.label name)
  else if c = 'b' ∨ c = 't' ∨ c = 'T' then
    let when_ := if c = 'b' then Jump.always else if c = 't' then .substituted else .unchanged
    let name ← label
    let p ← get
    set { p with rest := p.rest.dropWhile fun c => c == ' ' || c == '\t' }
    return .jump when_ name
  else if c = 'q' ∨ c = 'Q' then
    if !single then fail "command only uses one address"
    else
      blanks
      let n ← number
      ended
      return .quit (c == 'Q') (n % 256)
  else if c = 'l' then
    blanks
    let width ← match (← rest).head? with
      | some d => if d.isDigit then some <$> number else pure none
      | none => pure none
    ended
    return .list width
  else if c = 'e' then
    guarded
    blanks
    let cs ← rest
    let (words, after, _) := line [] cs
    goOn after
    return .execute (← inserted words).dropLast
  else if c = 'r' then
    guarded
    return .read (← fileName)
  else if c = 'R' then
    guarded
    return .readLine (← fileName)
  else if c = 'w' then
    guarded
    return .write (← fileName)
  else if c = 'W' then
    guarded
    return .writeLine (← fileName)
  else if c = 'v' then
    version
    return .nothing
  else if "=dDFgGhHnNpPzx".toList.contains c then
    ended
    return .plain c
  else fail ("unknown command: \x60" ++ String.singleton c ++ "'")

/-- The addresses of a step, and the letter of what it does. -/
def addresses : Reader (Option Address × Option Address × Option Char) := do
  match ← address? with
  | none => return (none, none, ← next)
  | some a =>
    match a with
    | .further _ => fail "invalid usage of +N or ~N as first address"
    | .multiple _ => fail "invalid usage of +N or ~N as first address"
    | a =>
      let c ← nextSolid
      let (b, c) ←
        if c = some ',' then do
          blanks
          match ← address? with
          | none =>
            let _ ← next
            fail "unexpected \x60,'"
          | some b => pure (some b, ← nextSolid)
        else pure (none, c)
      let zero := match a with
        | .line 0 => b.isSome || c != some 'r'
        | _ => false
      let matched := match b with
        | some (.containing _) => true
        | _ => false
      if zero && !matched then fail "invalid usage of line address 0"
      else return (some a, b, c)

/-- Adds a step. -/
def add (s : Step) : Reader Unit := modify fun p => { p with steps := p.steps.push s }

/-- The steps of a piece, at most `n` of them. -/
def all : Nat → Reader Unit
  | 0 => pure ()
  | n + 1 => do
    modify fun p => { p with rest := p.rest.dropWhile fun c =>
      c == ';' || c == ' ' || (9 ≤ c.toNat && c.toNat ≤ 13) }
    if (← rest).isEmpty then return
    let (a, b, c) ← addresses
    let (inverted, c) ← match c with
      | some '!' => do
        let c ← nextSolid
        if c = some '!' then fail "multiple \x60!'s" else pure (true, c)
      | c => pure (false, c)
    match c with
    | none => fail "missing command"
    | some '#' =>
      if a.isSome then fail "comments don't accept any addresses"
      let p ← get
      let atStart := p.piece.length = p.rest.length + 1 ∧ p.rest.head? = some 'n' ∧
        (p.origin = .expression 1 ∨ !(p.origin matches .expression _)) ∧ p.steps.isEmpty
      set { p with rest := (p.rest.dropWhile (· != '\n')).drop 1, quiet := p.quiet || atStart }
      all n
    | some '\x7b' =>
      let (origin, k) ← place
      let k := match origin with
        | .expression _ => 0
        | .file _ => k
      modify fun p => { p with opened := (p.steps.size, origin, k) :: p.opened }
      add ⟨a, b, inverted, .nothing⟩
      all n
    | some '\x7d' =>
      match (← get).opened with
      | [] => fail "unexpected \x60\x7d'"
      | (o, _) :: outer =>
        if a.isSome then fail "\x60\x7d' doesn't want any addresses"
        ended
        modify fun p => { p with
          opened := outer, steps := p.steps.modify o fun s => { s with verb := .opening p.steps.size } }
        all n
    | some c =>
      let v ← verb b.isNone a.isNone c
      add ⟨a, b, inverted, v⟩
      all n

/-- Goes on with a text that the piece before broke off. -/
def resume : Reader Unit := do
  let p ← get
  match p.pending with
  | none => pure ()
  | some words =>
    let (more, after, whole) := line [] p.rest
    let whole_ := words ++ more
    let text ← inserted whole_
    set { p with
      rest := after
      pending := if whole then none else some (whole_ ++ ['\\', '\n'])
      steps := p.steps.modify (p.steps.size - 1) fun s => { s with verb := withText s.verb text } }

/-- The steps of the pieces of a script. -/
def pieces : List (Origin × List Char) → Reader Unit
  | [] => pure ()
  | (origin, cs) :: more => do
    modify fun p => { p with origin, piece := cs, rest := cs }
    resume
    all (cs.length + 1)
    pieces more

/-- Blocks have to be closed, and labels to be there. -/
def complete : Reader Unit := do
  let p ← get
  match p.opened with
  | (_, place) :: _ => throw ⟨some place, "unmatched \x60\x7b'", 1⟩
  | [] =>
    let labels := p.steps.toList.filterMap fun s => match s.verb with
      | .label l => some l
      | _ => none
    let missing := p.steps.toList.reverse.findSome? fun s => match s.verb with
      | .jump _ l => if l.isEmpty || labels.contains l then none else some l
      | _ => none
    match missing with
    | some l => throw ⟨none, "can't find label for jump to \x60" ++ l ++ "'", 4⟩
    | none => pure ()

end Reader

/-- The script that pieces make. -/
def Script.read (extended sandboxed : Bool) (pieces : List (Origin × List Char)) : Except Complaint Script :=
  let start : Progress := ⟨.expression 1, [], [], #[], [], none, false, extended, sandboxed⟩
  match (do Reader.pieces pieces; Reader.complete : Reader Unit).run start with
  | .ok (_, p) =>
    let place := match p.origin with
      | .expression n => (Origin.expression n, 0)
      | .file name => (.file name, p.piece.count '\n' + 1)
    .ok ⟨p.steps, p.quiet, place⟩
  | .error e => .error e

end Stepwise.Shell.Editor
