import Stepwise.Shell.Condition
import Stepwise.Shell.Field
import Stepwise.Shell.Format
import Stepwise.Shell.Signal
import Stepwise.Shell.Token

/-!
The commands that belong to the shell itself and need no other commands. A fault in one of them ends
the shell if the command is special.
-/

namespace Stepwise.Shell.Builtins

open Run

/-- The letters before the arguments, each of which has to be allowed, and the arguments. -/
def letters (allowed : String) : Nat → List Char → List String → Run (List Char × List String)
  | 0, acc, args => pure (acc, args)
  | _, acc, [] => pure (acc, [])
  | n + 1, acc, a :: args => do
    match a.toList with
    | ['-', '-'] => pure (acc, args)
    | '-' :: c :: cs =>
      match (c :: cs).find? fun c => !allowed.toList.contains c with
      | some bad => fail ("Illegal option -" ++ String.singleton bad)
      | none => letters allowed n (acc ++ c :: cs) args
    | _ => pure (acc, a :: args)

/-- The letters before the arguments, and the arguments. -/
def options (allowed : String) (args : List String) : Run (List Char × List String) :=
  letters allowed (args.length + 1) [] args

/-- A value as the shell would read it again. -/
def requoted (s : String) : String :=
  let parts := Text.splitAt '\'' s.toList
  String.ofList ('\'' :: (Text.join ['\'', '"', '\'', '"', '\''] parts) ++ ['\''])

def echo (args : List String) : Run Nat := do
  let (silent, args) := match args with
    | "-n" :: rest => (true, rest)
    | args => (false, args)
  let (s, stopped) := unescaped (Text.joinText " " args)
  match ← writeBytes? 1 (bytes (if silent || stopped then s else s ++ "\n")) with
  | none => pure 0
  | some _ =>
    complain "I/O error"
    pure 1

def printf (args : List String) : Run Nat := do
  let (_, args) ← options "" args
  match args with
  | [] => fail "usage: printf format [arg ...]"
  | format :: args =>
    let f := formatted format args
    writeBytes 1 (bytes (String.ofList f.written.reverse))
    f.complaints.forM complain
    pure (if f.failed then 2 else if f.complaints.isEmpty then 0 else 1)

def test (bracketed : Bool) (args : List String) : Run Nat := do
  if bracketed && args.getLast? != some "]" then fail "missing ]"
  else
    let a ← Condition.answer (if bracketed then args.dropLast else args)
    pure (if a then 0 else 1)

/-- A path without dots, in letters of the shell. -/
def plainPath (p : Path) : Path := ⟨"/", Path.collapse [] p.parts⟩

/-- Goes to a directory, which has to be there. -/
def goTo (physical : Bool) (p : Path) : Run Bool := do
  match ← ask fun t => t.isDirectory p with
  | .ok true =>
    let p ← if physical then do
        match ← ask fun t => t.spot true p with
        | .ok s => pure ⟨"/", s.place⟩
        | .error _ => pure p
      else pure p
    put ⟨"OLDPWD", some (spelled (← get).directory.text), true, false⟩
    put ⟨"PWD", some (spelled p.text), true, false⟩
    modify fun m => { m with directory := p }
    pure true
  | _ => pure false

def cd (args : List String) : Run Nat := do
  let (letters, args) ← options "LP" args
  let physical := letters.getLast? == some 'P'
  let home := (← valueOf? "HOME").getD ""
  let (goal, told) ← match args.head? with
    | none => pure (home, false)
    | some "-" => pure (((← valueOf? "OLDPWD").getD ""), true)
    | some a => pure (a, false)
  let isFree := ! ["/", ".", ".."].any fun s =>
    s.toList.isPrefixOf goal.toList && (s == "/" || goal.length = s.length || (s ++ "/").toList.isPrefixOf goal.toList)
  let path := (← valueOf? "CDPATH").getD ""
  let search := if isFree then (Text.splitAt ':' path.toList).map String.ofList else [""]
  let here := (← get).directory
  let goals := search.map fun s => (plainPath (here ++ pathOf s ++ pathOf goal), told || !s.isEmpty)
  match ← goals.findM? fun g => goTo physical g.1 with
  | some (p, told) =>
    if told then write 1 (spelled p.text ++ "\n")
    pure 0
  | none => fail ("can't cd to " ++ goal)

def pwd (args : List String) : Run Nat := do
  let (letters, _) ← options "LP" args
  let here := (← get).directory
  let p : Path ← if letters.getLast? == some 'P' then
      match ← ask fun t => t.spot true here with
      | .ok s => pure ⟨"/", s.place⟩
      | .error _ => pure here
    else pure here
  write 1 (spelled p.text ++ "\n")
  pure 0

def exit (args : List String) : Run Nat := do
  match args with
  | [] => throw (.exit (← get).status)
  | a :: _ => throw (.exit ((← count a) % 256))

def back (args : List String) : Run Nat := do
  match args with
  | [] => throw (.back (← get).status)
  | a :: _ => throw (.back (← count a))

/-- Leaves loops, as many as there are. -/
def leave (halt : Nat → Halt) (args : List String) : Run Nat := do
  let n ← match args with
    | [] => pure 1
    | a :: _ => count a
  if n = 0 then fail ("Illegal number: " ++ args.headD "")
  else
    setStatus 0
    match min n (← get).loops with
    | 0 => pure 0
    | n => throw (halt n)

/-- The variables in order of their names. -/
def sorted : Run (List Variable) := do
  return (← get).vars.mergeSort fun a b => decide (a.name ≤ b.name)

/-- Changes what is allowed with variables, and perhaps their values. -/
def mark (told : String) (shown : Variable → Bool) (change : Variable → Variable) (args : List String) :
    Run Nat := do
  let (letters, args) ← options "p" args
  if args.isEmpty || !letters.isEmpty then
    for v in (← sorted).filter shown do
      write 1 (told ++ " " ++ v.name ++ (v.value.elim "" fun s => "=" ++ requoted s) ++ "\n")
  else
    args.forM fun a => do
      let name := String.ofList (a.toList.takeWhile (· != '='))
      if !isName name then fail (name ++ ": bad variable name")
      else
        if name.length < a.length then assign name (String.ofList (a.toList.drop (name.length + 1)))
        put (change ((← lookup? name).getD ⟨name, none, false, false⟩))
  pure 0

def exportAll : List String → Run Nat := mark "export" (·.exported) fun v => { v with exported := true }

def readonly : List String → Run Nat := mark "readonly" (·.readOnly) fun v => { v with readOnly := true }

/-- Keeps variables for the function that runs. -/
def localize (args : List String) : Run Nat := do
  match (← get).locals with
  | [] => fail "not in a function"
  | kept :: outer =>
    let kept ← args.foldlM (fun (kept : List Variable) a => do
      let name := String.ofList (a.toList.takeWhile (· != '='))
      if name = "-" then
        let options := (← get).options
        pure (if kept.any (·.name == "-") then kept
          else ⟨"-", some (String.ofList options), false, false⟩ :: kept)
      else if !isName name then fail (name ++ ": bad variable name")
      else
        let old := (← lookup? name).getD ⟨name, none, false, false⟩
        if name.length < a.length then assign name (String.ofList (a.toList.drop (name.length + 1)))
        pure (if kept.any (·.name == name) then kept else old :: kept)) kept
    modify fun m => { m with locals := kept :: outer }
    pure 0

def unsetAll (args : List String) : Run Nat := do
  let (letters, names) ← options "vf" args
  names.forM fun name =>
    if letters.getLast? == some 'f' then
      modify fun m => { m with functions := m.functions.filter (·.1 != name) }
    else if isName name then unset name
    else fail (name ++ ": bad variable name")
  pure 0

/-- The options of the shell, with their letters. -/
def optionNames : List (String × Char) :=
  [("errexit", 'e'), ("noglob", 'f'), ("ignoreeof", 'I'), ("interactive", 'i'), ("monitor", 'm'),
    ("noexec", 'n'), ("stdin", 's'), ("xtrace", 'x'), ("verbose", 'v'), ("vi", 'V'), ("emacs", 'E'),
    ("noclobber", 'C'), ("allexport", 'a'), ("notify", 'b'), ("nounset", 'u'), ("privileged", 'p'),
    ("nolog", '1'), ("debug", '2')]

/-- Sets an option, or takes it back. -/
def setOption (wanted : Bool) (c : Char) : Run Unit :=
  modify fun m =>
    { m with options := if wanted then c :: m.options.filter (· != c) else m.options.filter (· != c) }

/-- Tells the options of the shell. -/
def tellOptions (wanted : Bool) : Run Unit := do
  let set := (← get).options
  if wanted then write 1 "Current option settings\n"
  optionNames.forM fun (name, c) =>
    let isSet := set.contains c
    if wanted then
      write 1 (name ++ String.ofList (List.replicate (16 - name.length) ' ') ++
        (if isSet then "on" else "off") ++ "\n")
    else write 1 ("set " ++ (if isSet then "-o " else "+o ") ++ name ++ "\n")

/-- Reads the options at the beginning of arguments, and sets the parameters to the rest. -/
def setAll : Nat → List String → Run Nat
  | 0, _ => pure 0
  | _, [] => pure 0
  | n + 1, a :: args => do
    let parameters := fun (ps : List String) => do
      modify fun m => { m with parameters := ps, option := 1, letter := 0 }
      pure 0
    match a.toList with
    | ['-', '-'] => parameters args
    | ['-'] => if args.isEmpty then pure 0 else parameters args
    | sign :: c :: cs =>
      if sign = '-' ∨ sign = '+' then
        let wanted := sign == '-'
        let args ← (c :: cs).foldlM (fun (args : List String) c => do
          if c = 'o' then
            match args with
            | [] =>
              tellOptions wanted
              pure []
            | name :: rest =>
              match optionNames.find? (·.1 == name) with
              | some o =>
                setOption wanted o.2
                pure rest
              | none => fail ("Illegal option " ++ String.singleton sign ++ "o " ++ name)
          else if optionNames.any fun o => o.2 == c && !o.2.isDigit then
            setOption wanted c
            pure args
          else fail ("Illegal option " ++ String.ofList [sign, c])) args
        setAll n args
      else parameters (a :: args)
    | _ => parameters (a :: args)

def set (args : List String) : Run Nat := do
  if args.isEmpty then
    for v in ← sorted do
      match v.value with
      | some s => write 1 (v.name ++ "=" ++ requoted s ++ "\n")
      | none => pure ()
    pure 0
  else setAll (args.length + 1) args

def shift (args : List String) : Run Nat := do
  let n ← match args with
    | [] => pure 1
    | a :: _ => count a
  let parameters := (← get).parameters
  if parameters.length < n then fail "can't shift that many"
  else
    modify fun m => { m with parameters := parameters.drop n, option := 1, letter := 0 }
    pure 0

/-- The name of a signal, zero being the end of the shell. -/
def signalName (n : Nat) : String :=
  if n = 0 then "EXIT" else ((Signal.ofNumber? n).map (·.name)).getD (toString n)

def trap (args : List String) : Run Nat := do
  let (_, args) ← options "" args
  match args with
  | [] =>
    for t in (← get).traps.mergeSort fun a b => decide (a.1 ≤ b.1) do
      write 1 ("trap -- " ++ requoted t.2 ++ " " ++ signalName t.1 ++ "\n")
    pure 0
  | a :: rest =>
    let (action, names) := if rest.isEmpty || (Signal.numberOf? a).isSome && a.toNat?.isSome
      then (none, args) else (some a, rest)
    let bad := names.find? fun s => (Signal.numberOf? s).isNone
    (names.takeWhile fun s => some s != bad).forM fun s => do
      let n := (Signal.numberOf? s).getD 0
      let others := (← get).traps.filter (·.1 != n)
      modify fun m => { m with traps := match action with
        | none => others
        | some "-" => others
        | some a => (n, a) :: others }
    match bad with
    | none => pure 0
    | some s =>
      write 2 ("trap: " ++ s ++ ": bad trap\n")
      pure 1

def aliasing (args : List String) : Run Nat := do
  let known := (← get).aliases
  let told := fun (a : String × String) => write 1 (a.1 ++ "=" ++ requoted a.2 ++ "\n")
  if args.isEmpty then
    (known.mergeSort fun a b => decide (a.1 ≤ b.1)).forM told
    pure 0
  else
    let found ← args.mapM fun a => do
      match Text.cutFirst '=' a.toList with
      | some (name, value) =>
        let name := String.ofList name
        modify fun m =>
          { m with aliases := (name, String.ofList value) :: m.aliases.filter (·.1 != name) }
        pure true
      | none =>
        match (← get).aliases.find? (·.1 == a) with
        | some x =>
          told x
          pure true
        | none =>
          write 2 ("alias: " ++ a ++ " not found\n")
          pure false
    pure (if found.all id then 0 else 1)

def unalias (args : List String) : Run Nat := do
  let (letters, names) ← options "a" args
  if !letters.isEmpty then
    modify fun m => { m with aliases := [] }
    pure 0
  else
    let found ← names.mapM fun name => do
      let isThere := (← get).aliases.any (·.1 == name)
      if !isThere then write 2 ("unalias: " ++ name ++ " not found\n")
      modify fun m => { m with aliases := m.aliases.filter (·.1 != name) }
      pure isThere
    pure (if found.all id then 0 else 1)

/-- Characters without the blanks of a set at their end. -/
def trimEnd (set : List Char) (cs : List (Char × Bool)) : List (Char × Bool) :=
  (cs.reverse.dropWhile fun c => c.2 && set.contains c.1 && isBlank c.1).reverse

/-- The first word of characters, and the rest; soft characters of a set separate. -/
def firstWord (set : List Char) (cs : List (Char × Bool)) : List (Char × Bool) × List (Char × Bool) :=
  let separates := fun (c : Char × Bool) => c.2 && set.contains c.1
  let isSpace := fun (c : Char × Bool) => separates c && isBlank c.1
  let word := cs.takeWhile fun c => !separates c
  let rest := (cs.drop word.length).dropWhile isSpace
  match rest with
  | c :: more =>
    if separates c then (word, more.dropWhile isSpace) else (word, rest)
  | [] => (word, [])

/-- Shares characters out among names, the last name taking the rest. -/
def share (set : List Char) : List String → List (Char × Bool) → List (String × String)
  | [], _ => []
  | [name], cs =>
    let (word, rest) := firstWord set cs
    let all := if rest.isEmpty then word else trimEnd set cs
    [(name, String.ofList (all.map (·.1)))]
  | name :: names, cs =>
    let (word, rest) := firstWord set cs
    (name, String.ofList (word.map (·.1))) :: share set names rest

/-- The characters of a line, those after a backslash being hard; tells whether the line goes on. -/
def unslashed (raw : Bool) : List Char → List (Char × Bool) × Bool
  | [] => ([], false)
  | '\\' :: rest =>
    if raw then
      let r := unslashed raw rest
      (('\\', true) :: r.1, r.2)
    else
      match rest with
      | [] => ([], true)
      | c :: rest =>
        let r := unslashed raw rest
        ((c, false) :: r.1, r.2)
  | c :: rest =>
    let r := unslashed raw rest
    ((c, true) :: r.1, r.2)

/-- Lines up to one that does not go on; tells whether it was ended. -/
def lines (raw : Bool) : Nat → List (Char × Bool) → Run (List (Char × Bool) × Bool)
  | 0, acc => pure (acc, false)
  | n + 1, acc => do
    let (bs, ended) ← readLine
    let (cs, more) := unslashed raw ((ofBytes bs).toList.filter (· != '\x00'))
    if more && ended then lines raw n (acc ++ cs) else pure (acc ++ cs, ended)

def read (args : List String) : Run Nat := do
  let raw := fun (a : String) => a == "-r"
  let (letters, names) ← options "r" (match args with
    | "-p" :: _ :: rest => rest
    | a :: "-p" :: _ :: rest => if raw a then a :: rest else args
    | _ => args)
  match names with
  | [] => fail "arg count"
  | _ =>
    let (cs, ended) ← lines (letters.contains 'r') 10000 []
    let set := ((← valueOf? "IFS").getD " \t\n").toList
    let cs := cs.dropWhile fun c => c.2 && set.contains c.1 && isBlank c.1
    (share set names cs).forM fun p => do
      if isName p.1 then assign p.1 p.2 else fail (p.1 ++ ": bad variable name")
    pure (if ended then 0 else 1)

/-- Reads the next option of arguments. -/
def getopts (args : List String) : Run Nat := do
  match args with
  | allowed :: name :: given =>
    let m ← get
    let params := if given.isEmpty then m.parameters else given
    let isOver := params.length + 1 < m.option
    let index := if isOver then 1 else m.option
    let letter := if isOver || index ≤ 1 then 0 else m.letter
    let silent := allowed.toList.head? == some ':'
    let finish := fun (index letter : Nat) (found : String) (status : Nat) => do
      put { ((← lookup? "OPTIND").getD ⟨"OPTIND", none, ← isSet 'a', false⟩) with value := some (toString index) }
      if isName name then assign name found else fail (name ++ ": bad variable name")
      modify fun m => { m with option := index, letter }
      pure status
    let current := ((params[index - 2]?).getD "").toList
    let begun := letter ≠ 0 ∧ letter < current.length
    let next := ((params[index - 1]?).getD "").toList
    if !begun && (next.head? != some '-' || next.length ≤ 1) then finish index 0 "?" 1
    else if !begun && next == ['-', '-'] then finish (index + 1) 0 "?" 1
    else
      let index := if begun then index else index + 1
      let cs := if begun then current.drop letter else next.drop 1
      let after := (if begun then letter else 1) + 1
      match cs with
      | [] => finish index 0 "?" 1
      | c :: rest =>
        let word := String.singleton c
        match allowed.toList.drop ((allowed.toList.findIdx? fun d => d == c && d != ':').getD allowed.length) with
        | [] =>
          if silent then assign "OPTARG" word
          else
            write 2 ("Illegal option -" ++ word ++ "\n")
            unset "OPTARG"
          finish index after "?" 0
        | _ :: ':' :: _ =>
          match rest, params[index - 1]? with
          | _ :: _, _ =>
            assign "OPTARG" (String.ofList rest)
            finish index 0 word 0
          | [], some a =>
            assign "OPTARG" a
            finish (index + 1) 0 word 0
          | [], none =>
            if silent then assign "OPTARG" word
            else
              write 2 ("No arg for -" ++ word ++ " option\n")
              unset "OPTARG"
            finish index 0 (if silent then ":" else "?") 0
        | _ =>
          assign "OPTARG" ""
          finish index after word 0
  | _ => fail "Usage: getopts optstring var [arg...]"

/-- A mask of permissions in words. -/
def maskText (mask : Nat) : String :=
  let rights := fun (shift : Nat) =>
    let kept := 7 - mask / shift % 8
    (if 4 ≤ kept then "r" else "") ++ (if 2 ≤ kept % 4 then "w" else "") ++ (if kept % 2 = 1 then "x" else "")
  "u=" ++ rights 64 ++ ",g=" ++ rights 8 ++ ",o=" ++ rights 1

/-- The rights that letters name, for one class of users. -/
def rightsOf? (cs : List Char) : Option Nat :=
  cs.foldlM (fun n c => match c with
    | 'r' => some (if n / 4 % 2 = 1 then n else n + 4)
    | 'w' => some (if n / 2 % 2 = 1 then n else n + 2)
    | 'x' => some (if n % 2 = 1 then n else n + 1)
    | _ => none) 0

/-- The permissions of a class of users, changed by a sign and rights. -/
def changed (sign : Char) (old rights : Nat) : Nat :=
  if sign = '=' then rights
  else if sign = '+' then old ||| rights
  else old &&& (7 - rights)

/-- Permissions with a clause applied, such as one that gives a right to some users. -/
def withClause? (mode : Nat) (clause : List Char) : Option Nat :=
  let who := clause.takeWhile fun c => "ugoa".toList.contains c
  match clause.drop who.length with
  | sign :: rights =>
    if "=+-".toList.contains sign then
      let all := who.isEmpty || who.contains 'a'
      (rightsOf? rights).map fun r =>
        [(64, 'u'), (8, 'g'), (1, 'o')].foldl (fun mode (s, c) =>
          if all || who.contains c then
            let old := mode / s % 8
            mode - old * s + changed sign old r * s
          else mode) mode
    else none
  | [] => none

def umask (args : List String) : Run Nat := do
  let (letters, args) ← options "S" args
  match args with
  | [] =>
    let m ← get
    if letters.contains 'S' then write 1 (maskText m.mask ++ "\n")
    else write 1 (String.ofList (List.replicate (4 - (Nat.toDigits 8 m.mask).length) '0' ++ Nat.toDigits 8 m.mask) ++ "\n")
    pure 0
  | a :: _ =>
    if a.toList.head?.any Char.isDigit then
      if a.toList.all fun c => '0' ≤ c && c ≤ '7' then
        modify fun m => { m with mask := (octal a.length 0 a.toList).1 % 512 }
        pure 0
      else fail ("Illegal number: " ++ a)
    else
      let clauses := Text.splitAt ',' a.toList
      match clauses.foldlM withClause? (511 - (← get).mask) with
      | some mode =>
        modify fun m => { m with mask := 511 - mode }
        pure 0
      | none => fail ("Illegal mode: " ++ a)

/-- The job that an argument names by the number of its process, or after a percent sign by its own. -/
def job? (a : String) : Run (Option Job) := do
  let m ← get
  match a.toList with
  | '%' :: cs =>
    if cs.isEmpty || cs == ['%'] || cs == ['+'] then pure m.jobs.head?
    else if cs == ['-'] then pure m.jobs[1]?
    else return (String.ofList cs).toNat?.bind fun n => m.jobs.find? (·.number == n)
  | _ => do
    let n ← count a
    pure (m.jobs.find? (·.process == n))

/-- Tells that a signal has ended a command. -/
def tellSignal (n : Nat) : Run Unit := do
  let told := Signal.told n
  if !told.isEmpty then write 2 (told ++ "\n")

/-- What the shell says about the use of `kill`. -/
def killUsage : String :=
  "Usage: kill [-s sigspec | -signum | -sigspec] [pid | job]... or\nkill -l [exitstatus]"

/-- Sends a signal to the shell itself, or to the one that it is part of. -/
def receive (n : Nat) : Run Unit := do
  if (← get).inner then modify fun m => { m with sent := m.sent ++ [n] }
  else match (← get).traps.find? (·.1 == n) with
  | some (_, action) =>
    if n = 9 ∨ n = 19 then throw (if n = 9 then .signal 9 else .timeout)
    if !action.isEmpty then modify fun m => { m with pending := m.pending ++ [n] }
  | none =>
    match Signal.ofNumber? n with
    | some ⟨_, _, .nothing⟩ => pure ()
    | some ⟨_, _, .halts⟩ => throw .timeout
    | some ⟨_, _, .ends _⟩ => throw (.signal n)
    | none => if n = 0 then pure () else throw (.signal n)

/-- Sends a signal to a command beside the shell; tells whether there is one. -/
def sendTo (process n : Nat) : Run Bool := do
  let m ← get
  match m.jobs.find? (·.process == process) with
  | some j =>
    if j.ends ≤ m.elapsed then pure !j.waited
    else
      if n ≠ 0 then
        let killed := { j with status := 128 + n, ends := m.elapsed }
        let streams := m.streams.map fun s => s.filter fun w => w.1 ≤ m.elapsed
        let jobs := m.jobs.map fun k => if k.process = process then killed else k
        modify fun m => { m with jobs, streams }
      pure true
  | none => pure false

def kill (args : List String) : Run Nat := do
  let usage : Run Nat := fail killUsage
  let send := fun (n : Nat) (targets : List String) => do
    if targets.isEmpty then usage
    else
      let failures ← targets.mapM fun t => do
        let named := t.toList.head? == some '%'
        let goal ← if named then (Option.map fun j => (j.process : Int)) <$> job? t
          else pure (integer? false t)
        match goal with
        | none => fail ((if named then "No such job: " else "Illegal number: ") ++ t)
        | some i =>
          if i = (← get).process ∨ i = 0 then
            receive n
            pure false
          else
            let found ← if named then pure false else sendTo i.natAbs n
            if !found then complain "No such process\n"
            pure !found
      pure (if failures.any id then 1 else 0)
  match args with
  | [] => usage
  | "-l" :: [] =>
    let extra := (List.range 15).map fun i => "RTMIN+" ++ toString (i + 1)
    let more := (List.range 14).reverse.map fun i => "RTMAX-" ++ toString (i + 1)
    write 1 (String.join ((["0"] ++ Signal.all.map (·.name) ++ ["32", "33", "RTMIN"] ++ extra ++ more ++
      ["RTMAX"]).map (· ++ "\n")))
    pure 0
  | "-l" :: a :: _ =>
    let n ← count a
    write 1 (signalName (if 128 < n then n - 128 else n) ++ "\n")
    pure 0
  | "-s" :: [] => fail "No arg for -s option"
  | "-s" :: s :: targets =>
    match Signal.numberOf? s with
    | some n => send n targets
    | none => fail ("invalid signal number or name: " ++ s)
  | a :: targets =>
    match a.toList with
    | ['-', '-'] => send 15 targets
    | '-' :: c :: cs =>
      match Signal.numberOf? (String.ofList (c :: cs)) with
      | some n => send n targets
      | none => fail ("Illegal option -" ++ String.singleton c)
    | _ => send 15 args

/-- Forgets jobs that were waited for. -/
def forget (gone : Job → Bool) : Run Unit :=
  modify fun m => { m with
    jobs := m.jobs.filter (!gone ·)
    lingering := (((m.jobs.filter gone).filter (·.writes)).map (·.ends)).foldl max m.lingering }

def wait (args : List String) : Run Nat := do
  let until_ := fun (t : Nat) => do
    let now := (← get).elapsed
    if now < t then pass (t - now)
  let note := fun (isMeant : Job → Bool) =>
    modify fun m => { m with jobs := m.jobs.map fun j => if isMeant j then { j with waited := true } else j }
  if args.isEmpty then
    for j in (← get).jobs do
      until_ j.ends
    note fun _ => true
    pure 0
  else
    args.foldlM (fun _ a => do
      match ← job? a with
      | some j =>
        until_ j.ends
        if 128 < j.status && !j.waited then tellSignal (j.status - 128)
        note (·.process == j.process)
        pure j.status
      | none => if a.toList.head? == some '%' then fail ("No such job: " ++ a) else pure 127) 0

def jobs (args : List String) : Run Nat := do
  let (letters, names) ← options "lp" args
  let meant ← names.mapM fun a => do
    match ← job? (if a.toList.head? == some '%' then a else "%" ++ a) with
    | some j => pure j.number
    | none => fail ("No such job: " ++ a)
  let m ← get
  let all := m.jobs.zipIdx
  let isDone := fun (j : Job) => decide (j.ends ≤ m.elapsed)
  let step := fun (done : Nat) (x : Job × Nat) => do
    let (j, i) := x
    if meant.isEmpty || meant.contains j.number then
      let sign := if i = done then "+" else if i = done + 1 then "-" else " "
      let state := if !isDone j then "Running"
        else if 128 < j.status && !(Signal.told (j.status - 128)).isEmpty then Signal.told (j.status - 128)
        else if j.status = 0 then "Done"
        else "Done(" ++ toString j.status ++ ")"
      let padded := state ++ String.ofList (List.replicate (27 - state.length) ' ')
      if letters.contains 'p' then write 1 (toString j.process ++ "\n")
      else
        write 1 ("[" ++ toString j.number ++ "] " ++ sign ++ " " ++
          (if letters.contains 'l' then toString j.process ++ " " else "") ++ padded ++ "\n")
      pure (if isDone j then done + 1 else done)
    else pure done
  let _ ← all.foldlM step 0
  forget fun j => isDone j && (meant.isEmpty || meant.contains j.number)
  pure 0

/-- The commands by name. -/
def find? (name : String) : Option (List String → Run Nat) :=
  match name with
  | "echo" => some echo
  | "printf" => some printf
  | "test" => some (test false)
  | "[" => some (test true)
  | ":" => some fun _ => pure 0
  | "true" => some fun _ => pure 0
  | "false" => some fun _ => pure 1
  | "cd" => some cd
  | "chdir" => some cd
  | "pwd" => some pwd
  | "exit" => some exit
  | "return" => some back
  | "break" => some (leave .leave)
  | "continue" => some (leave .again)
  | "export" => some exportAll
  | "readonly" => some readonly
  | "local" => some localize
  | "unset" => some unsetAll
  | "set" => some set
  | "shift" => some shift
  | "trap" => some trap
  | "alias" => some aliasing
  | "unalias" => some unalias
  | "read" => some read
  | "getopts" => some getopts
  | "umask" => some umask
  | "ulimit" => some fun args => do
      let _ ← options "HSatfdscmlpnvwr" args
      write 1 "unlimited\n"
      pure 0
  | "times" => some fun _ => do
      write 1 "0m0.000000s 0m0.000000s\n0m0.000000s 0m0.000000s\n"
      pure 0
  | "kill" => some kill
  | "wait" => some wait
  | "jobs" => some jobs
  | "fg" => some fun _ => fail "No current job"
  | "bg" => some fun _ => fail "No current job"
  | _ => none

end Stepwise.Shell.Builtins
