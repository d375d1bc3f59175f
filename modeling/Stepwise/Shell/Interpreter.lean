import Stepwise.Shell.Connection
import Stepwise.Shell.Lookup
import Stepwise.Shell.Reader

/-!
Carrying out commands. Part of a pipe, a command in parentheses and a command whose output is taken work
on the same files but keep everything else to themselves. A function changes what its caller sees except
for its parameters and what it declares local.
-/

namespace Stepwise.Shell

open Run

/-- A way to carry out commands. The flag tells that the status of a command is looked at, so that it
does not end a shell that stops at the first failure. -/
abbrev Evaluator := Bool → Command → Run Unit

namespace Evaluator

/-- The outcome of an action. -/
def attempt {α : Type} (act : Run α) : Run (Except Halt α) := do
  try
    return .ok (← act)
  catch h => pure (.error h)

/-- What an action returns, or a value if it faults. -/
def orElse (act : Run Nat) : Run Nat := do
  try act
  catch
    | .fault n => pure n
    | h => throw h

/-- Whether a loop goes on after its body. -/
def goesOn (body : Run Unit) : Run Bool := do
  try
    body
    pure true
  catch
    | .leave n => if 1 < n then throw (.leave (n - 1)) else pure false
    | .again n => if 1 < n then throw (.again (n - 1)) else pure true
    | h => throw h

/-- An action in a loop. -/
def inLoop (act : Run Unit) : Run Unit := do
  undoing (fun before after => { after with loops := before.loops }) do
    modify fun m => { m with loops := m.loops + 1 }
    act

/-- What a shell of its own leaves behind: files, what was written, and the time that passed. -/
def leavings (before after : Machine) : Machine :=
  { before with
    files := after.files, streams := after.streams, opened := after.opened, documents := after.documents
    programs := after.programs, stamps := after.stamps, twins := after.twins, budget := after.budget, elapsed := after.elapsed
    sent := before.sent ++ after.sent
    lingering := ((after.jobs.filter (·.writes)).map (·.ends)).foldl max after.lingering }

/-- The status of a command that may be ended by a signal, which is told. -/
def witnessed (act : Run Nat) : Run Nat := do
  try act
  catch
    | .signal n =>
      Builtins.tellSignal n
      pure (128 + n)
    | h => throw h

/-- Gets the signals that were sent from within. -/
def deliver : Run Unit := do
  let m ← get
  if !m.inner && !m.sent.isEmpty then
    set { m with sent := [] }
    m.sent.forM Builtins.receive

/-- The steps of a sequence. -/
def stepsOf : Command → List Command → List Command
  | .sequence first second, rest => stepsOf first (second :: rest)
  | c, rest => c :: rest

section

variable (run : Evaluator)

/-- Carries out the lines of a script; tells whether there were any commands. -/
def lines (tested : Bool) : Nat → Bool → Source → Run Bool
  | 0, _, _ => throw .timeout
  | n + 1, any, s => do
    let m ← get
    match Reader.line.run { s with aliases := m.aliases, documents := m.documents } with
    | .error (e, ends) =>
      modify fun m => { m with line := ends + 1 }
      fail e.message
    | .ok (none, _) => pure any
    | .ok (some c, rest) =>
      set { m with documents := rest.documents }
      run tested c
      lines tested n (any || !c.isNothing) rest

/-- Carries out a script; one without commands succeeds. -/
def script (tested : Bool) (s : String) : Run Unit := do
  let any ← lines run tested (s.length + 2) false ⟨s.toList, s.length, 0, none, [], [], [], [], false⟩
  if !any then setStatus 0

/-- Carries out the actions for signals that have come, at most `n` of them. -/
def answerSignals : Nat → Run Unit
  | 0 => pure ()
  | n + 1 => do
    let m ← get
    match m.pending with
    | [] => pure ()
    | signal :: rest =>
      set { m with pending := rest }
      match m.traps.find? (·.1 == signal) with
      | some (_, action) =>
        script run false action
        setStatus m.status
      | none => pure ()
      answerSignals n

/-- The status with which an action ends a shell. -/
def closing (r : Except Halt Unit) : Run Nat := do
  match r with
  | .error (.exit n) => pure n
  | .error (.fault n) => pure n
  | .error (.back n) => pure n
  | .error (.signal n) => throw (.signal n)
  | .error .timeout => throw .timeout
  | _ => return (← get).status

/-- Carries out an action as all that a shell does, and then the action for its end. -/
def conclude (act : Run Unit) : Run Nat := do
  let status ← closing (← attempt act)
  setStatus status
  match (← get).traps.find? (·.1 == 0) with
  | none => pure status
  | some (_, action) =>
    modify fun m => { m with traps := m.traps.filter (·.1 != 0) }
    match ← attempt (script run false action) with
    | .error (.exit n) => pure n
    | .error (.fault n) => pure n
    | .error (.signal n) => throw (.signal n)
    | .error .timeout => throw .timeout
    | _ => pure status

/-- The outcome of an action that is carried out in an inner shell. -/
def inside (act : Run Unit) : Run (Except Halt Nat) := do
  let before ← get
  set { before with
    elapsed := before.elapsed + innerDelay
    inner := true, ending := false, traps := before.traps.filter (·.2.isEmpty), pending := [], sent := [], jobs := [] }
  let r ← attempt (conclude run act)
  modify (leavings before)
  deliver
  pure r

/-- The status of an action that is carried out in an inner shell. -/
def within (act : Run Unit) : Run Nat := do
  let r ← inside run act
  witnessed (match r with
    | .ok n => pure n
    | .error h => throw h)

/-- What a command writes, without the ends of its last lines. -/
def output (c : Command) : Run String := do
  let i ← newStream []
  let status ← within run do
    join 1 (.stream i)
    run false c
  let m ← get
  let cs := (ofBytes (m.streams.getD i []).bytes).toList.filter (· != '\x00')
  set { m with substituted := status, streams := m.streams.setIfInBounds i [] }
  pure (String.ofList (Text.dropEndWhile (· == '\n') cs))

/-- Carries out a command beside the shell. A simple command takes the place of the inner shell. -/
def background (c : Command) : Run Unit := do
  modify fun m => { m with spawned := m.spawned + 1 }
  let freed := ((← get).jobs.filter (·.waited)).foldl (fun n j => min n j.number) 1000000
  Builtins.forget fun j => j.waited && j.number == freed
  let m ← get
  let number := ((List.range (m.jobs.length + 1)).find? fun k => !m.jobs.any (·.number == k + 1)).getD 0 + 1
  modify fun m => { m with elapsed := m.elapsed + asideDelay }
  let r ← inside run do
    join 0 (.device .void)
    modify fun m => { m with ending := c matches .simple .. }
    run false c
  let after ← get
  let (status, ends) := match r with
    | .ok n => (n, after.elapsed)
    | .error (.signal n) => (128 + n, after.elapsed)
    | .error _ => (0, m.patience)
  let writes := [1, 2].any fun d => m.channels.any fun c => c.1 == d && c.2 == Channel.stream d
  modify fun after => { after with
    elapsed := m.elapsed, budget := max after.budget 1, jobs := ⟨number, m.process + m.spawned, status, ends, writes, false⟩ :: m.jobs }
  setStatus 0

/-- The most steps of a part of a pipe whose output goes to another part. -/
def stageBudget : Nat := 200000

/-- Carries out the parts of a pipe, all beginning at one time; the first one reads from a channel. -/
def stages (tested : Bool) (start : Nat) (input : Option Channel) : List Command → Run Nat
  | [] => pure 0
  | [c] => do
    modify fun m => { m with elapsed := start }
    within run do
      match input with
      | some i => join 0 i
      | none => pure ()
      run tested c
  | c :: rest => do
    let i ← newStream []
    let budget := (← get).budget
    modify fun m => { m with elapsed := start, budget := min budget stageBudget }
    let r ← attempt (within run do
      match input with
      | some i => join 0 i
      | none => pure ()
      join 1 (.stream i)
      run tested c)
    let m ← get
    let ends ← match r with
      | .ok _ => pure m.elapsed
      | .error .timeout => if m.budget = 0 then pure start else throw .timeout
      | .error h => throw h
    modify fun m => { m with budget := max 1 (budget - min budget stageBudget + m.budget) }
    let status ← stages tested start (some (.stream i)) rest
    modify fun m => { m with elapsed := max m.elapsed ends, streams := m.streams.setIfInBounds i [] }
    pure status

/-- Calls a function. -/
def callFunction (tested : Bool) (body : Command) (args : List String) : Run Nat := do
  let before ← get
  if 1000 ≤ before.calls then fail "Maximum function recursion depth (1000) reached"
  else
    set { before with
      parameters := args, calls := before.calls + 1, loops := 0, option := 1, letter := 0, locals := [] :: before.locals }
    let r ← attempt (run tested body)
    modify fun after =>
      let frame := after.locals.headD []
      let kept := frame.filter (·.name != "-")
      let options := ((frame.find? (·.name == "-")).bind (·.value)).map String.toList
      let others := after.vars.filter fun v => !kept.any (·.name == v.name)
      let back := kept.filter fun v => v.value.isSome || v.exported || v.readOnly
      { after with
        parameters := before.parameters, calls := before.calls, loops := before.loops, option := before.option, letter := before.letter
        locals := before.locals, vars := back ++ others, options := options.getD after.options }
    match r with
    | .ok () => return (← get).status
    | .error (.back n) => pure n
    | .error h => throw h

/-- The state in which a program begins: it sees only the variables that are exported. -/
def fresh (m : Machine) (name : String) (parameters : List String) (options : List Char) : Machine :=
  let standard := [("IFS", " \t\n"), ("OPTIND", "1"), ("PS1", "# "), ("PS2", "> "), ("PS4", "+ ")]
  let exported := m.vars.filter fun v => v.exported && v.value.isSome && v.name != "IFS"
  let own := standard.filter fun s => !exported.any (·.name == s.1)
  { m with
    name, parameters, options
    vars := exported ++ own.map fun s => ⟨s.1, some s.2, false, false⟩
    locals := [], functions := [], calls := 0, loops := 0, aliases := [], pending := [], inner := false
    ending := false, sent := []
    traps := m.traps.filter (·.2.isEmpty)
    status := 0, substituted := 0, line := 0, label := none, option := 1, letter := 0, remembered := [], jobs := []
    process := m.process + m.spawned + 1, spawned := 0 }

/-- An action as a program of its own. -/
def process (start : Machine → Machine) (act : Run Nat) : Run Nat := do
  let before ← get
  set { start before with sent := [], elapsed := before.elapsed + programDelay }
  let r ← attempt (orElse act)
  modify (leavings before)
  match r with
  | .ok n => pure n
  | .error (.exit n) => pure n
  | .error h => throw h

/-- The options that a shell is started with: letters, whether a text of commands and the standard input
are meant, and the arguments. -/
def shellOptions : Nat → List Char → List String → Run (List Char × List String)
  | 0, cs, args => pure (cs, args)
  | _, cs, [] => pure (cs, [])
  | n + 1, cs, a :: args => do
    match a.toList with
    | ['-', '-'] => pure (cs, args)
    | ['-'] => pure (cs, args)
    | sign :: c :: rest =>
      if sign = '-' ∨ sign = '+' then
        let (cs, args) ← (c :: rest).foldlM (fun ((cs, args) : List Char × List String) c => do
          if c = 'o' then
            match args with
            | name :: rest =>
              match Builtins.optionNames.find? (·.1 == name) with
              | some o => pure (o.2 :: cs, rest)
              | none => fail ("Illegal option " ++ String.singleton sign ++ "o " ++ name)
            | [] => pure (cs, [])
          else if c = 'c' || c = 'l' || Builtins.optionNames.any fun o => o.2 == c && !o.2.isDigit then
            pure (if sign = '-' then c :: cs else cs.filter (· != c), args)
          else fail ("Illegal option " ++ String.ofList [sign, c])) (cs, args)
        shellOptions n cs args
      else pure (cs, a :: args)
    | _ => pure (cs, a :: args)

/-- Starts a shell. -/
def shell (name : String) (args : List String) : Run Nat :=
  process (fun m => fresh m name [] []) do
    let (letters, args) ← shellOptions (args.length + 1) [] args
    let options := letters.filter (· != 'c')
    modify fun m => { m with options }
    let carry := fun (s : String) => conclude run (script run false s)
    if letters.contains 'c' then
      match args with
      | [] => fail "-c requires an argument"
      | text :: rest =>
        modify fun m => { m with name := rest.headD name, parameters := rest.drop 1 }
        carry text
    else
      match if letters.contains 's' then [] else args with
      | [] =>
        modify fun m => { m with parameters := args, options := 's' :: m.options.filter (· != 's') }
        carry (ofBytes ((← readAll).toOption.getD []))
      | file :: rest =>
        match ← Tools.contents file with
        | .error (.system ⟨.isDirectory, _⟩) => pure 0
        | .error f => Connection.refuse "open" file f
        | .ok cs =>
          modify fun m => { m with name := file, parameters := rest }
          carry (String.ofList cs)

/-- The interpreter that the first line of a script names, with its argument. -/
def interpreter? (cs : List Char) : Option (List String) :=
  match cs with
  | '#' :: '!' :: rest =>
    let line := (rest.takeWhile (· != '\n')).dropWhile isBlank
    let path := line.takeWhile (!isBlank ·)
    let arg := Text.dropEndWhile isBlank ((line.drop path.length).dropWhile isBlank)
    if path.isEmpty then none
    else some (String.ofList path :: (if arg.isEmpty then [] else [String.ofList arg]))
  | _ => none

/-- Carries out a program, at most `n` programs deep. -/
def launch : Nat → String → Executable → String → List String → Run Nat
  | 0, _, _, _, _ => throw .timeout
  | n + 1, path, e, name, args => do
    let asProgram := process fun m => { m with label := none, name }
    match e with
    | .shell => shell run name args
    | .finder => asProgram (Lookup.which args)
    | .known p =>
      asProgram (p (fun words => do
        let name := words.headD ""
        match ← Meaning.ofProgram none name with
        | .program path e => some <$> witnessed (launch n path e name (words.drop 1))
        | _ => pure none) args)
    | .script p =>
      let cs := ofBytes (((← ask fun t => t.readFile p).toOption).getD [])
      match interpreter? cs.toList with
      | none => shell run "/bin/sh" (path :: args)
      | some words =>
        match ← Meaning.ofProgram none (words.headD "") with
        | .program _ e => launch n (words.headD "") e (words.headD "") (words.drop 1 ++ path :: args)
        | .denied =>
          complain (name ++ ": Permission denied")
          pure 126
        | _ =>
          complain (name ++ ": not found")
          pure 127

/-- How many programs deep programs may start others. -/
def programDepth : Nat := 64

/-- Carries out the commands in a file within the shell. -/
def source (args : List String) : Run Nat := do
  match args with
  | [] => pure 0
  | name :: _ =>
    match ← Lookup.scriptPath? name with
    | none => fail (name ++ ": not found")
    | some path =>
      match ← Tools.contents path with
      | .error (.system ⟨.isDirectory, _⟩) => pure 0
      | .error f => Connection.refuse "open" path f
      | .ok cs =>
        modify fun m => { m with label := some path }
        match ← attempt (script run false (String.ofList cs)) with
        | .error (.back n) => pure n
        | .error h => throw h
        | .ok () => return (← get).status

/-- Replaces the shell by a program, if one is named. -/
def replace (args : List String) : Run Nat := do
  let (_, args) ← Builtins.options "" args
  match args with
  | [] => pure 0
  | name :: rest =>
    match ← Meaning.ofProgram none name with
    | .program path e =>
      modify fun m => { m with traps := m.traps.filter (·.2.isEmpty) }
      throw (.exit (← launch run programDepth path e name rest))
    | .denied =>
      complain (name ++ ": Permission denied")
      throw (.exit (if name.toList.contains '/' then 126 else 127))
    | _ =>
      complain (name ++ ": not found")
      throw (.exit 127)

/-- Tells what a name means. -/
def describe (args : List String) : Run Nat := do
  let (letters, names) ← Builtins.options "pvV" args
  let path? := if letters.contains 'p' then some Meaning.standardPath else none
  match names with
  | [] => pure 0
  | name :: _ =>
    if letters.contains 'v' || letters.contains 'V' then Lookup.tell (letters.contains 'V') path? name
    else pure 0

/-- Carries out a command of the shell. -/
def builtin (tested special : Bool) (name : String) (args : List String) : Run Nat := do
  let label := (← get).label
  let act : Run Nat :=
    match name with
    | "eval" => do
      script run tested (Text.joinText " " args)
      return (← get).status
    | "." => source run args
    | "exec" => replace run args
    | "command" => describe args
    | "type" => Lookup.type args
    | "hash" => Lookup.hash args
    | _ => ((Builtins.find? name).getD fun _ => pure 0) args
  undoing (fun _ after => { after with label }) do
    modify fun m => { m with label := some name }
    if special then act else orElse act

/-- The words of a command that were expanded so far, and whether assignments among the next ones are
not split, if that is known. -/
def assigns? : Nat → List String → Option Bool
  | 0, _ => none
  | _, [] => none
  | n + 1, name :: rest =>
    if name = "command" then
      let options := rest.takeWhile fun a => a.toList.head? == some '-' && 1 < a.length && a != "--"
      if options.any fun a => (a.toList.drop 1).any (· != 'p') then some false
      else
        match rest.drop options.length with
        | "--" :: rest => assigns? n rest
        | rest => assigns? n rest
    else some (Meaning.takesAssignments name)

/-- The words of a command, after those that were expanded, which are in reverse order. -/
def expandAll : List Word → List String → Option Bool → Run (List String)
  | [], names, _ => pure names.reverse
  | w :: ws, names, known => do
    if known == some true && w.assignment?.isSome then
      let s ← Expansion.assigned (output run) w
      expandAll ws (s :: names) known
    else
      let names := (← Expansion.words (output run) w).reverse ++ names
      let known := match known with
        | some b => some b
        | none => assigns? (names.length + 1) names.reverse
      expandAll ws names known

end

/-- A command as it is called: whether functions count, whether it is special if that is decided, and
where programs are looked for. -/
structure Call where
  names : List String
  functions : Bool
  special : Option Bool
  path : Option String

/-- The command that is meant after `command` and its options. -/
def Call.settle : Nat → Call → Call
  | 0, c => c
  | n + 1, c =>
    match c.names with
    | "command" :: rest =>
      let options := rest.takeWhile fun a => a.toList.head? == some '-' && 1 < a.length && a != "--"
      let operands := match rest.drop options.length with
        | "--" :: more => more
        | more => more
      let c := { c with special := c.special.orElse fun _ => some false }
      if options.any (fun a => (a.toList.drop 1).any (· != 'p')) || operands.isEmpty then c
      else
        settle n { c with
          names := operands, functions := false
          path := if options.isEmpty then c.path else some Meaning.standardPath }
    | name :: _ => { c with special := c.special.orElse fun _ => some (Meaning.isSpecial name) }
    | [] => c

section

variable (run : Evaluator)

/-- Makes assignments; tells them. -/
def assignAll (exported : Bool) : List (String × Word) → Run (List String)
  | [] => pure []
  | (name, w) :: rest => do
    let value ← Expansion.assigned (output run) w
    assign name value
    if exported then
      match ← lookup? name with
      | some v => put { v with exported := true }
      | none => pure ()
    return (name ++ "=" ++ value) :: (← assignAll exported rest)

/-- Tells a command before it is carried out, if that is asked for. -/
def trace (errors : Option Channel) (assigned names : List String) : Run Unit := do
  if ← isSet 'x' then
    apart do
      match errors with
      | some c => join 2 c
      | none => close 2
      write 2 ((← valueOf? "PS4").getD "" ++ Text.joinText " " (assigned ++ names) ++ "\n")

/-- Carries out a command that has a name. -/
def perform (tested : Bool) (c : Call) : Run Nat := do
  let name := c.names.headD ""
  let args := c.names.drop 1
  match ← Meaning.ofName c.functions c.path name with
  | .function body => callFunction run tested body args
  | .builtin => builtin run tested (c.special.getD false) name args
  | .program path e =>
    Lookup.remember name
    let act := launch run programDepth path e name args
    if (← get).ending then act else witnessed act
  | .denied =>
    complain (name ++ ": Permission denied")
    pure (if name.toList.contains '/' then 126 else 127)
  | .absent =>
    complain (name ++ ": not found")
    pure 127

/-- Carries out a simple command. Assignments before a command last only if it is special. -/
def simple (tested : Bool) (line : Nat) (assignments : List (String × Word)) (words : List Word)
    (redirections : List Redirection) : Run Unit := do
  spend
  modify fun m => { m with line, substituted := 0 }
  let names ← expandAll run words [] none
  let hasCommand := (← get).functions.any (·.1 == "command")
  let call := if hasCommand then ⟨names, true, some false, none⟩
    else Call.settle (names.length + 1) ⟨names, true, none, none⟩
  let special := call.special == some true
  let before ← get
  let isExec := call.names.head? == some "exec"
  let restore := fun (before after : Machine) =>
    let after := if isExec then after else { after with channels := before.channels }
    if names.isEmpty || special then after
    else
      let isOwn := fun (v : Variable) => assignments.any fun a => a.1 == v.name
      { after with vars := before.vars.filter isOwn ++ after.vars.filter (!isOwn ·) }
  let body : Run Nat := do
    let errors ← channel? 2
    if ← Connection.links (output run) redirections then
      let assigned ← assignAll run (!(names.isEmpty || special) || (isExec && 1 < call.names.length)) assignments
      trace errors assigned names
      if names.isEmpty then return (← get).substituted else perform run tested call
    else
      let status := (← get).status
      if special then throw (.fault status) else pure status
  let status ← if names.isEmpty && assignments.isEmpty && redirections.isEmpty then
      pure before.substituted
    else if assignments.isEmpty && redirections.isEmpty then do
      trace (← channel? 2) [] names
      perform run tested call
    else undoing restore body
  setStatus status

/-- Carries out commands one after the other. -/
def each (act : Command → Run Unit) : List Command → Run Unit
  | [] => pure ()
  | c :: cs => do
    act c
    each act cs

/-- Goes through a loop with a condition, at most `n` times; `last` is the status of the body. -/
def loop (tested wanted : Bool) (condition body : Command) : Nat → Nat → Run Unit
  | 0, _ => throw .timeout
  | n + 1, last => do
    spend
    match ← attempt (run true condition) with
    | .ok () =>
      if ((← get).status == 0) == wanted then
        if ← goesOn (run tested body) then loop tested wanted condition body n (← get).status
      else setStatus last
    | .error (.leave k) => if 1 < k then throw (.leave (k - 1)) else setStatus last
    | .error (.again k) =>
      if 1 < k then throw (.again (k - 1)) else loop tested wanted condition body n last
    | .error h => throw h

/-- Carries out a command for each value of a variable. -/
def forEach (tested : Bool) (name : String) (body : Command) : List String → Run Unit
  | [] => pure ()
  | v :: vs => do
    assign name v
    if ← goesOn (run tested body) then forEach tested name body vs

/-- The command of the first case with a pattern that covers a text. -/
def chosen (s : String) : List (List Word × Command) → Run Command
  | [] => pure .nothing
  | (ps, body) :: rest => do
    let found ← ps.findM? fun p => do return Mark.covers (← Expansion.pattern (output run) p) s.toList
    if found.isSome then pure body else chosen s rest

/-- Ends a shell that stops at the first failure. -/
def judge (tested : Bool) : Run Unit := do
  let m ← get
  if !tested && m.status ≠ 0 && m.options.contains 'e' then throw (.exit m.status)

/-- Carries out a command, others being carried out in a given way. -/
def step (tested : Bool) (c : Command) : Run Unit := do
  match c with
  | .nothing => pure ()
  | .simple line assignments words redirections =>
    simple run tested line assignments words redirections
    judge tested
  | .redirected line body redirections =>
    modify fun m => { m with line }
    apart do
      if ← Connection.links (output run) redirections then run tested body
  | .subshell line body redirections =>
    spend
    modify fun m => { m with line }
    setStatus (← within run do
      if ← Connection.links (output run) redirections then run tested body else throw (.exit 2))
    judge tested
  | .background body => background run body
  | .pipe cs =>
    spend
    setStatus (← stages run tested (← get).elapsed none cs)
    judge tested
  | .negated c =>
    run true c
    setStatus (if (← get).status = 0 then 1 else 0)
  | .both first second =>
    run true first
    if (← get).status = 0 then run tested second
  | .either first second =>
    run true first
    if (← get).status ≠ 0 then run tested second
  | .sequence first second => each (run tested) (stepsOf first [second])
  | .choice condition yes no =>
    run true condition
    if (← get).status = 0 then
      if yes.isNothing then setStatus 0 else run tested yes
    else if no.isNothing then setStatus 0
    else run tested no
  | .loop wanted condition body =>
    inLoop (do loop run tested wanted condition body (← get).budget 0)
  | .each line name words body =>
    modify fun m => { m with line }
    let values ← words.mapM (Expansion.words (output run))
    setStatus 0
    inLoop (forEach run tested name body values.flatten)
  | .branch line subject cases =>
    modify fun m => { m with line }
    let s ← Expansion.text (output run) subject
    let body ← chosen run s cases
    setStatus 0
    run tested body
  | .define _ name body =>
    modify fun m => { m with functions := (name, body) :: m.functions.filter (·.1 != name) }
    setStatus 0

end

/-- Carries out a command that is at most some levels deep. -/
def ofDepth : Nat → Evaluator
  | 0, _, _ => throw .timeout
  | n + 1, tested, c => do
    if ← isSet 'n' then pure ()
    else
      step (ofDepth n) tested c
      if !(← get).pending.isEmpty then answerSignals (ofDepth n) 100

end Evaluator

end Stepwise.Shell
