import Stepwise.Shell.Editor.Script
import Stepwise.Shell.Tools.Basic

/-!
Editing lines by a script. Each line is brought into the pattern space, changed by the steps of the
script whose addresses cover it, and written.
-/

namespace Stepwise.Shell.Editor

/-- How a range of lines stands: not begun, open up to a line if its number is known, or closed. -/
inductive RangeState
  | idle
  | active (until_ : Option Nat)
  | closed
  deriving DecidableEq, Repr

/-- What is written before the next line is read: text, a file, or a line of a file. -/
inductive Extra
  | text (cs : List Char)
  | file (name : String)

/-- How a script is used: the place that complaints name, whether lines are not shown by themselves, the character after lines, whether
files are taken one by one, whether they are changed in place, and the width of lines shown in visible
form. -/
structure Manner where
  place : Spot
  quiet : Bool
  ending : Char
  separate : Bool
  inPlace : Option String
  width : Nat

/-- What is being edited: the files to come and the present one, its lines, and whether the last of them
is cut off; the pattern and hold spaces, and whether a line end belongs to the pattern space; the number
of the line, the ranges, what is written and whether a line end is still owed, the files to which one is
owed, what is to be written later, whether something was substituted, the matcher used last, the lines left of files that are read by
lines, and how it ends. -/
structure Editing where
  names : List String
  name : String
  lines : List (List Char)
  cut : Bool
  space : List Char
  whole : Bool
  held : List Char
  heldWhole : Bool
  number : Nat
  ranges : Array RangeState
  written : List Char
  owed : Bool
  owing : List String
  queue : List Extra
  substituted : Bool
  matcher : Option Matcher
  followed : List (String × List Char)
  fatal : Option String
  status : Nat

/-- Work on what is being edited. -/
abbrev Work := StateT Editing Run

/-- How the steps go on after one of them: at a step, with the next line, with the next line without
showing this one, again with what is left, or not at all. -/
inductive Course
  | goOn (step : Nat)
  | finish
  | drop
  | again
  | stop

namespace Substitution

/-- Text with the casing applied that goes on, and the one that is for one character. -/
def cased (whole once : Option Char) (cs : List Char) : List Char :=
  let all := match whole with
    | some 'U' => cs.map Regex.capitalOf
    | some 'L' => cs.map Regex.smallOf
    | _ => cs
  match once, all with
  | some 'u', c :: rest => Regex.capitalOf c :: rest
  | some 'l', c :: rest => Regex.smallOf c :: rest
  | _, all => all

/-- The text that replaces a match, in letters. -/
def fill (t : Regex.Subject) (start : Nat) (e : Regex.Standing) (ps : List Replacement) : List Char :=
  let step := fun (acc : List Char × Option Char × Option Char) (p : Replacement) =>
    let put := fun (cs : List Char) =>
      (acc.1 ++ cased acc.2.1 acc.2.2 cs, acc.2.1, if cs.isEmpty then acc.2.2 else none)
    match p with
    | .text cs => put cs
    | .group 0 => put (t.slice start e.position)
    | .group n => put ((e.group? n).elim [] fun g => t.slice g.1 g.2)
    | .casing c =>
      if c = 'E' then (acc.1, none, none)
      else if c = 'u' ∨ c = 'l' then (acc.1, acc.2.1, some c)
      else (acc.1, some c, none)
  (ps.foldl step ([], none, none)).1

/-- A text with its matches from a position on replaced, and whether any was. `count` tells how many
matches came before. -/
def apply (s : Substitution) (r : Regex) (t : Regex.Subject) : Nat → Nat → Nat → Option Nat → List Char × Bool
  | 0, i, _, _ => (t.slice i t.text.size, false)
  | n + 1, i, count, lastEnd =>
    match r.find? t i with
    | none => (t.slice i t.text.size, false)
    | some (a, e) =>
      let b := e.position
      if a = b && lastEnd == some a then
        if a < t.text.size then
          let rest := apply s r t n (a + 1) count none
          (t.slice i (a + 1) ++ rest.1, rest.2)
        else (t.slice i t.text.size, false)
      else
        let replaced := s.number ≤ count + 1 && (s.global || count + 1 = s.number)
        let new := if replaced then fill t a e s.replacement else t.slice a b
        let before := t.slice i a
        if replaced && !s.global then (before ++ new ++ t.slice b t.text.size, true)
        else if a = b then
          if a < t.text.size then
            let rest := apply s r t n (a + 1) (count + 1) none
            (before ++ new ++ t.slice a (a + 1) ++ rest.1, replaced || rest.2)
          else (before ++ new, replaced)
        else
          let rest := apply s r t n b (count + 1) (some b)
          (before ++ new ++ rest.1, replaced || rest.2)

end Substitution

namespace Work

open Run

/-- Writes characters, after a line end that is owed. -/
def emit (m : Manner) (cs : List Char) : Work Unit :=
  modify fun e => { e with
    written := cs.reverse ++ (if e.owed then m.ending :: e.written else e.written), owed := false }

/-- Writes a line; without its end, the end is owed. -/
def put (m : Manner) (cs : List Char) (whole : Bool) : Work Unit := do
  emit m (if whole then cs ++ [m.ending] else cs)
  modify fun e => { e with owed := !whole }

/-- Writes the pattern space. -/
def show_ (m : Manner) : Work Unit := do put m (← get).space (← get).whole

/-- Writes the pattern space unless a script shows its lines itself. -/
def showUnlessQuiet (m : Manner) : Work Unit := do if !m.quiet then show_ m

/-- The characters of a file that is read by a step, none if it cannot be read. -/
def read (name : String) : Run (List Char) := do
  if name = "/dev/stdin" then return (← Tools.contents "-").toOption.getD []
  else return (← Tools.contents name).toOption.getD []

/-- Writes what was to be written before the next line. -/
def flush (m : Manner) : Work Unit := do
  let queue := (← get).queue
  modify fun e => { e with queue := [] }
  for x in queue do
    match x with
    | .text cs => emit m cs
    | .file name => emit m (← read name)

/-- Writes the pattern space to a file. -/
def store (m : Manner) (file : String) (cs : List Char) (whole : Bool) : Work Unit := do
  if file = "/dev/stdout" && m.inPlace.isNone then put m cs whole
  else
    let owing := (← get).owing
    let line := (if owing.contains file then [m.ending] else []) ++ (if whole then cs ++ [m.ending] else cs)
    modify fun e => { e with owing := if whole then owing.filter (· != file) else file :: owing }
    let bs := line.map fun c => UInt8.ofNat c.toNat
    if file = "/dev/stdout" then writeBytes 1 bs
    else if file = "/dev/stderr" then writeBytes 2 bs
    else
      let _ ← Run.store (← locate file) fun old => old ++ bs

/-- Brings what was written to where it belongs: the standard output, or the file that is edited. -/
def deliver (m : Manner) : Work Unit := do
  let e ← get
  set { e with written := [], owed := if m.inPlace.isSome then false else e.owed }
  let text := e.written.reverse
  match m.inPlace with
  | none => Tools.out text
  | some ending =>
    if !e.name.isEmpty && e.fatal.isNone then
      let path ← locate e.name
      if !ending.isEmpty then
        let base := (e.name.splitToList (· == '/')).getLastD ""
        let copy := if ending.toList.contains '*' then
            String.ofList (ending.toList.flatMap fun c => if c = '*' then base.toList else [c])
          else base ++ ending
        let directory := (e.name.toList.take (e.name.length - base.length))
        let old := (← Tools.contents e.name).toOption.getD []
        let _ ← Run.store (← locate (String.ofList directory ++ copy)) fun _ => old.map fun c => UInt8.ofNat c.toNat
      let _ ← Run.store path fun _ => text.map fun c => UInt8.ofNat c.toNat

/-- The ranges at the beginning: one from line zero is open already. -/
def ranges (steps : Array Step) : Array RangeState :=
  steps.map fun s => match s.first with
    | some (.line 0) => .active none
    | _ => .idle

/-- Gives up with a complaint. -/
def abandon (why : String) (status : Nat) : Work Unit :=
  modify fun e => { e with fatal := some why, status, names := [], lines := [] }

/-- Begins the next file, if lines are left in none that was begun; tells whether there are lines. -/
def begin_ (m : Manner) (steps : Array Step) : Nat → Work Bool
  | 0 => pure false
  | n + 1 => do
    let e ← get
    if !e.lines.isEmpty then pure true
    else
      match e.names with
      | [] => pure false
      | name :: names =>
        if m.inPlace.isSome then deliver m
        set { ← get with names, name := "" }
        match ← (if m.inPlace.isSome && name = "-" then
            pure (.error (.system ⟨.noEntry, []⟩)) else Tools.contents name) with
        | .ok cs =>
          let ls := Text.splitAt m.ending cs
          let isCut := cs.getLast?.any (· != m.ending)
          let ls := if ls.getLast? == some [] then ls.dropLast else ls
          modify fun e => { e with name, lines := ls, cut := isCut }
          if m.separate then modify fun e => { e with number := 0, held := [], heldWhole := true, ranges := ranges steps }
          begin_ m steps n
        | .error f =>
          let why := Tools.reason f
          if why = Errno.isDirectory.text then
            abandon (if m.inPlace.isSome then "couldn't edit " ++ name ++ ": not a regular file"
              else "read error on " ++ name ++ ": " ++ why) 4
            pure false
          else
            let _ ← Tools.fault "sed" ("can't read " ++ name ++ ": " ++ why) 2
            modify fun e => { e with status := 2 }
            begin_ m steps n

/-- Whether no line follows. -/
def atEnd (m : Manner) (steps : Array Step) : Work Bool := do
  let e ← get
  if !e.lines.isEmpty then pure false
  else if m.separate then pure true
  else return !(← begin_ m steps (e.names.length + 1))

/-- Brings the next line into the pattern space, after what is there if that is asked for; tells whether
there was one. -/
def advance (m : Manner) (steps : Array Step) (joining : Bool) : Work Bool := do
  flush m
  modify fun e => { e with substituted := false }
  if ← begin_ m steps ((← get).names.length + 1) then
    let e ← get
    match e.lines with
    | l :: ls =>
      if e.number = 0 then
        for s in steps do
          match s.first, s.second, s.verb with
          | some (.line 0), none, .read file => emit m (← read file)
          | _, _, _ => pure ()
      let e ← get
      set { e with
        lines := ls, number := e.number + 1, whole := !(ls.isEmpty && e.cut)
        space := if joining then e.space ++ m.ending :: l else l }
      pure true
    | [] => pure false
  else pure false

/-- Whether a matcher, the last one if none is given, finds something in the pattern space; none if there
was none before. -/
def finds? (r : Option Matcher) : Work (Option Bool) := do
  let e ← get
  match r <|> e.matcher with
  | none => pure none
  | some r =>
    set { e with matcher := some r }
    return some (r.regex.find? (r.subject e.space) 0).isSome

/-- The complaint about a matcher that is not there. -/
def noMatcher (m : Manner) : String := m.place.shown ++ ": no previous regular expression"

/-- Whether an address by itself covers the line. -/
def meets (m : Manner) (steps : Array Step) : Address → Work Bool
  | .all => pure true
  | .line n => return (← get).number = n
  | .last => atEnd m steps
  | .every first step => do
    let k := (← get).number
    return if step = 0 then k = first else first ≤ k && (k - first) % step = 0
  | .containing r => do
    match ← finds? r with
    | some b => pure b
    | none =>
      abandon (noMatcher m) 1
      pure false
  | _ => pure false

/-- Notes how a range stands. -/
def setRange (i : Nat) (s : RangeState) : Work Unit :=
  modify fun e => { e with ranges := e.ranges.setIfInBounds i s }

/-- Whether a range covers the line. -/
def inRange (m : Manner) (steps : Array Step) (i : Nat) (a b : Address) : Work Bool := do
  let k := (← get).number
  let isLine := match a with
    | .line _ => true
    | _ => false
  match (← get).ranges.getD i .idle with
  | .active (some n) =>
    if n ≤ k then setRange i .closed
    pure true
  | .active none =>
    match b with
    | .line n =>
      if n ≤ k then setRange i .closed
      return k ≤ n
    | b =>
      if ← meets m steps b then setRange i .closed
      pure true
  | state =>
    if state = .closed && isLine then pure false
    else
      let starts ← match a, b with
        | .line n, .line o => pure (n = k || (n ≤ k && k ≤ o))
        | .line n, _ => pure (n ≤ k)
        | a, _ => meets m steps a
      if !starts then pure false
      else
        match b with
        | .line n => if k < n then setRange i (.active none) else setRange i .closed
        | .all => setRange i .closed
        | .further n => setRange i (.active (some (k + n)))
        | .multiple n => setRange i (.active (some (k + n - k % n)))
        | .last => if ← atEnd m steps then setRange i .closed else setRange i (.active none)
        | _ => setRange i (.active none)
        pure true

/-- Whether a step is for the line. -/
def covers (m : Manner) (steps : Array Step) (i : Nat) (s : Step) : Work Bool := do
  let found ← match s.first, s.second with
    | none, _ => pure true
    | some (.line 0), none => pure false
    | some a, none => meets m steps a
    | some a, some b => inRange m steps i a b
  return found != s.inverted

/-- The pattern space in visible form, in lines of some width unless that is zero. -/
def listed (ending : Char) (width : Nat) (cs : List Char) : List Char :=
  let shown := cs.map fun c =>
    match c with
    | '\\' => ['\\', '\\']
    | '\x07' => ['\\', 'a']
    | '\x08' => ['\\', 'b']
    | '\x0c' => ['\\', 'f']
    | '\n' => ['\\', 'n']
    | '\r' => ['\\', 'r']
    | '\t' => ['\\', 't']
    | '\x0b' => ['\\', 'v']
    | c =>
      if 32 ≤ c.toNat && c.toNat < 127 then [c]
      else
        let ds := Nat.toDigits 8 c.toNat
        '\\' :: (List.replicate (3 - ds.length) '0' ++ ds)
  let step := fun (acc : List Char × Nat) (piece : List Char) =>
    if 0 < width && width - 1 < acc.2 + piece.length then (piece.reverse ++ ending :: '\\' :: acc.1, piece.length)
    else (piece.reverse ++ acc.1, acc.2 + piece.length)
  (shown.foldl step ([], 0)).1.reverse ++ ['$', ending]

/-- What a command writes when a shell carries it out. -/
def outcome (run : Launcher) (command : List Char) : Run (List Char) := do
  let i ← newStream []
  apart do
    join 1 (.stream i)
    let _ ← run ["sh", "-c", String.ofList command]
  return (← streamBytes i).map fun b => Char.ofNat b.toNat

/-- A text without the line end behind it. -/
def unended (m : Manner) (cs : List Char) : List Char := if cs.getLast? == some m.ending then cs.dropLast else cs

/-- Replaces matches in the pattern space; tells whether the script can go on. -/
def substitute (run : Launcher) (m : Manner) (s : Substitution) : Work Bool := do
  let e ← get
  match s.matcher <|> e.matcher with
  | none =>
    abandon (noMatcher m) 1
    pure false
  | some r =>
    set { e with matcher := some r }
    if r.regex.groups < s.greatestGroup then
      abandon (m.place.shown ++ ": invalid reference \\" ++ toString s.greatestGroup ++
        " on \x60s' command's RHS") 1
      pure false
    else
      let t := r.subject e.space
      let (new, done) := s.apply r.regex t (2 * t.text.size + 4) 0 0 none
      if done then
        modify fun e => { e with space := Letters.toBytes new, substituted := true }
        if s.shows then show_ m
        if s.carries then
          let text ← outcome run (← get).space
          modify fun e => { e with space := unended m text }
          if s.showsCarried then show_ m
        match s.file with
        | some file => store m file (← get).space (← get).whole
        | none => pure ()
      pure true

/-- The next line of a file that is read by lines. -/
def follow (m : Manner) (file : String) : Work (Option (List Char)) := do
  let e ← get
  let left ← match e.followed.find? (·.1 == file) with
    | some (_, cs) => pure cs
    | none => read file
  let line := left.takeWhile (· != m.ending)
  let after := left.drop (line.length + 1)
  modify fun e => { e with followed := (file, after) :: e.followed.filter (·.1 != file) }
  return if left.isEmpty then none
    else some (if line.length < left.length then line ++ [m.ending] else line)

/-- Does what a letter stands for. -/
def deed (m : Manner) (steps : Array Step) (i : Nat) (c : Char) : Work Course := do
  let goOn : Work Course := pure (.goOn (i + 1))
  let e ← get
  let firstLine := e.space.takeWhile (· != m.ending)
  if c = 'd' then pure .drop
  else if c = 'D' then
    if e.space.contains m.ending then
      set { e with space := e.space.drop (firstLine.length + 1) }
      pure .again
    else pure .drop
  else if c = 'p' then
    show_ m
    goOn
  else if c = 'P' then
    put m firstLine (e.whole || firstLine.length < e.space.length)
    goOn
  else if c = 'n' then
    let last ← atEnd m steps
    showUnlessQuiet m
    if last then pure .drop
    else
      let _ ← advance m steps false
      goOn
  else if c = 'N' then
    if ← atEnd m steps then
      showUnlessQuiet m
      pure .drop
    else
      let _ ← advance m steps true
      goOn
  else if c = 'h' then
    set { e with held := e.space, heldWhole := e.whole }
    goOn
  else if c = 'H' then
    set { e with held := e.held ++ m.ending :: e.space, heldWhole := e.whole }
    goOn
  else if c = 'g' then
    set { e with space := e.held, whole := e.heldWhole }
    goOn
  else if c = 'G' then
    set { e with space := e.space ++ m.ending :: e.held, whole := e.heldWhole }
    goOn
  else if c = 'x' then
    set { e with space := e.held, whole := e.heldWhole, held := e.space, heldWhole := e.whole }
    goOn
  else if c = '=' then
    emit m ((toString e.number).toList ++ [m.ending])
    goOn
  else if c = 'F' then
    emit m (e.name.toList ++ [m.ending])
    goOn
  else
    set { e with space := [] }
    goOn

/-- Carries out a step. -/
def perform (run : Launcher) (m : Manner) (steps : Array Step) (i : Nat) (s : Step) : Work Course := do
  let goOn : Work Course := pure (.goOn (i + 1))
  match s.verb with
  | .substitute t => if ← substitute run m t then goOn else pure .stop
  | .translate pairs =>
    modify fun e => { e with space := Letters.toBytes ((Letters.ofBytes e.space).map fun c =>
      (pairs.find? (·.1 == c)).elim c (·.2)) }
    goOn
  | .quit silent status =>
    if !silent then
      showUnlessQuiet m
      flush m
      emit m []
    modify fun e => { e with status := if status = 0 then e.status else status }
    pure .stop
  | .insert cs =>
    emit m (cs.dropLast ++ [m.ending])
    goOn
  | .append cs =>
    modify fun e => { e with queue := e.queue ++ [.text cs] }
    goOn
  | .change cs =>
    let isOpen := match (← get).ranges.getD i .idle with
      | .active _ => s.second.isSome && !s.inverted
      | _ => false
    if !isOpen then emit m (cs.dropLast ++ [m.ending])
    pure .drop
  | .read file =>
    modify fun e => { e with queue := e.queue ++ [.file file] }
    goOn
  | .readLine file =>
    match ← follow m file with
    | some cs => modify fun e => { e with queue := e.queue ++ [.text cs] }
    | none => pure ()
    goOn
  | .write file =>
    store m file (← get).space (← get).whole
    goOn
  | .writeLine file =>
    let e ← get
    let line := e.space.takeWhile (· != m.ending)
    store m file line (e.whole || line.length < e.space.length)
    goOn
  | .jump when_ name =>
    let e ← get
    let jumps := when_ = .always || (e.substituted == (when_ == .substituted))
    if when_ ≠ .always then set { e with substituted := false }
    if !jumps then goOn
    else if name.isEmpty then pure .finish
    else
      match steps.findIdx? fun s => match s.verb with
        | .label l => l == name
        | _ => false with
      | some k => pure (.goOn k)
      | none => pure .finish
  | .list width =>
    emit m (listed m.ending (width.getD m.width) (← get).space)
    goOn
  | .execute command =>
    if command.isEmpty then
      let text ← outcome run (← get).space
      modify fun e => { e with space := unended m text }
    else emit m (← outcome run command)
    goOn
  | .plain c => deed m steps i c
  | _ => goOn

/-- Goes through the steps from one on, at most `n` of them. -/
def cycle (run : Launcher) (m : Manner) (steps : Array Step) : Nat → Nat → Work Course
  | 0, _ => throw .timeout
  | n + 1, i => do
    match steps[i]? with
    | none => pure .finish
    | some s =>
      spend
      let chosen ← covers m steps i s
      if (← get).fatal.isSome then pure .stop
      else if !chosen then
        match s.verb with
        | .opening closing => cycle run m steps n closing
        | _ => cycle run m steps n (i + 1)
      else
        match ← perform run m steps i s with
        | .goOn k => cycle run m steps n k
        | course => pure course

/-- Edits line by line; `kept` tells that the pattern space is used again. -/
def all (run : Launcher) (m : Manner) (steps : Array Step) : Nat → Bool → Work Unit
  | 0, _ => throw .timeout
  | n + 1, kept => do
    let more ← if kept then pure true else advance m steps false
    if !more then pure ()
    else
      match ← cycle run m steps ((← getThe Machine).budget + 2) 0 with
      | .stop => pure ()
      | .finish =>
        showUnlessQuiet m
        all run m steps n false
      | .again => all run m steps n true
      | _ => all run m steps n false

end Work

/-- Makes the files that steps write to empty; tells which of them cannot be written, and why. -/
def prepare (steps : Array Step) : Run (Option String) := do
  let files := (steps.toList.flatMap fun s => s.verb.outputs).eraseDups
  files.foldlM (fun flaw file => do
    if flaw.isSome || file = "/dev/stdout" || file = "/dev/stderr" then pure flaw
    else
      match ← Run.store (← Run.locate file) fun _ => [] with
      | some f => return some ("couldn't open file " ++ file ++ ": " ++ Tools.reason f)
      | none => pure none) none

/-- Edits the lines of files by a script, and gives the status. -/
def edit (run : Launcher) (m : Manner) (steps : Array Step) (names : List String) : Run Nat := do
  match ← prepare steps with
  | some flaw => Tools.fault "sed" flaw 4
  | none =>
    let start : Editing :=
      ⟨names, "", [], false, [], true, [], true, 0, Work.ranges steps, [], false, [], [], false, none, [], none, 0⟩
    let fuel := (← get).budget + 2
    let (_, e) ← (do Work.all run m steps fuel false; Work.deliver m : Work Unit).run start
    match e.fatal with
    | some why => Tools.fault "sed" why e.status
    | none => pure e.status

end Stepwise.Shell.Editor
