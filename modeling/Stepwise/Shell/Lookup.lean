import Stepwise.Shell.Builtins
import Stepwise.Shell.Tools.Calculation
import Stepwise.Shell.Tools.Dump
import Stepwise.Shell.Tools.Edit
import Stepwise.Shell.Tools.Harvest
import Stepwise.Shell.Tools.Lines
import Stepwise.Shell.Tools.Print
import Stepwise.Shell.Tools.Streams
import Stepwise.Shell.Tools.System
import Stepwise.Shell.Tools.Times

/-!
The programs that the shell finds on its path.
-/

namespace Stepwise.Shell.Tools

/-- A program that carries out no others. -/
def alone (f : List String → Run Nat) : Program := fun _ => f

/-- The programs by name. -/
def all : List (String × Program) :=
  [("cat", alone cat), ("tac", alone tac), ("rev", alone rev), ("head", alone head), ("tail", alone tail),
    ("tee", alone tee), ("wc", alone wc), ("nl", alone nl), ("fold", alone fold), ("seq", alone seq),
    ("yes", alone yes), ("sort", alone sort), ("uniq", alone uniq), ("comm", alone comm), ("cut", alone cut),
    ("paste", alone paste), ("tr", alone tr), ("mkdir", alone mkdir), ("rmdir", alone rmdir),
    ("touch", alone touch), ("date", alone date), ("rm", alone rm), ("mv", alone mv), ("cp", alone cp), ("ln", alone ln),
    ("chmod", alone chmod), ("ls", alone ls), ("basename", alone basename), ("dirname", alone dirname),
    ("readlink", alone readlink), ("realpath", alone realpath), ("pwd", alone pwd), ("find", find),
    ("grep", alone grep), ("egrep", alone fun args => grep ("-E" :: args)),
    ("fgrep", alone fun args => grep ("-F" :: args)), ("sed", sed), ("awk", awk), ("mawk", awk), ("expr", alone expr),
    ("printenv", alone printenv), ("env", env), ("sleep", alone sleep), ("timeout", timeout),
    ("nohup", nohup), ("xargs", xargs), ("whoami", alone whoami), ("id", alone identify),
    ("uname", alone uname), ("echo", alone plainEcho), ("printf", alone printf), ("base64", alone base64), ("od", alone od)]

/-- The program with a name. -/
def find? (name : String) : Option Program := (all.find? (·.1 == name)).map (·.2)

end Stepwise.Shell.Tools

/-!
What the name of a command means. Functions come before the commands of the shell itself, and these
before the programs on its path.
-/

namespace Stepwise.Shell

open Run

/-- A program that can be carried out: one that is known, one that looks for programs, a shell, or a
script in a file. -/
inductive Executable
  | known (p : Program)
  | finder
  | shell
  | script (p : Path)

/-- What the name of a command means; the text is where a program was found, or why there is none. -/
inductive Meaning
  | function (body : Command)
  | builtin
  | program (path : String) (e : Executable)
  | denied
  | absent

namespace Meaning

/-- The commands of the shell that need others to be carried out. -/
def evaluators : List String := [".", "command", "eval", "exec", "hash", "type"]

/-- Whether a command belongs to the shell itself. -/
def isBuiltin (name : String) : Bool := (Builtins.find? name).isSome || evaluators.contains name

/-- Whether a command of the shell is special: a fault in it ends the shell, and assignments before it
last. -/
def isSpecial (name : String) : Bool :=
  [".", ":", "break", "continue", "eval", "exec", "exit", "export", "local", "readonly", "return", "set",
    "shift", "times", "trap", "unset"].contains name

/-- Whether the arguments of a command may be assignments, which are not split. -/
def takesAssignments (name : String) : Bool := ["alias", "export", "local", "readonly"].contains name

/-- The directories that hold the programs of the system. -/
def isSystem (p : Path) : Bool := p.parts == ["bin"] || p.parts == ["usr", "bin"]

/-- What can be carried out at a path. -/
def at_ (s : String) : Run Meaning := do
  let p ← locate s
  let dir := Builtins.plainPath p.parent
  if isSystem dir && ["sh", "dash", "bash"].contains p.name then pure (.program s .shell)
  else if isSystem dir && p.name = "which" then pure (.program s .finder)
  else
    match if isSystem dir then Tools.find? p.name else none with
    | some f => pure (.program s (.known f))
    | none =>
      if isSystem dir && (isBuiltin p.name && !isSpecial p.name) then
        pure (.program s (.known fun _ args => ((Builtins.find? p.name).getD fun _ => pure 0) args))
      else
        match ← Tools.nodeAt true s with
        | .error _ => pure (if (device? p).isSome then .denied else .absent)
        | .ok .directory => pure .denied
        | .ok _ => return if ← Condition.isProgram s then .program s (.script p) else .denied

/-- The directories in which programs are looked for. -/
def standardPath : String := "/usr/local/sbin:/usr/local/bin:/usr/sbin:/usr/bin:/sbin:/bin"

/-- The program with a name in some directories. -/
def search (name : String) : List String → Run Meaning
  | [] => pure .absent
  | dir :: dirs => do
    match ← at_ (if dir.isEmpty then name else Tools.inDirectory dir name) with
    | .program path e => pure (.program path e)
    | .denied => do
      match ← search name dirs with
      | .absent => pure .denied
      | m => pure m
    | _ => search name dirs

/-- What a program's name means; a name with a slash is a path. -/
def ofProgram (path? : Option String) (name : String) : Run Meaning := do
  if name.toList.contains '/' then at_ name
  else if name.isEmpty then pure .denied
  else
    let path := path?.getD ((← valueOf? "PATH").getD "")
    search name ((Text.splitAt ':' path.toList).map String.ofList)

/-- What a name means. -/
def ofName (functions : Bool) (path? : Option String) (name : String) : Run Meaning := do
  let m ← get
  match if functions then m.functions.find? (·.1 == name) else none with
  | some f => pure (.function f.2)
  | none => if isBuiltin name then pure .builtin else ofProgram path? name

end Meaning

namespace Lookup

/-- Where a script of commands is: at a path, or in one of the directories for programs. -/
def scriptPath? (name : String) : Run (Option String) := do
  if name.toList.contains '/' then pure (some name)
  else
    let dirs := (Text.splitAt ':' ((← valueOf? "PATH").getD "").toList).map String.ofList
    (dirs.map fun d => if d.isEmpty then name else Tools.inDirectory d name).findM? fun s => do
      match ← Tools.nodeAt true s with
      | .ok (.file _) => pure true
      | _ => pure false

/-- Notes that a program was looked for. -/
def remember (name : String) : Run Unit :=
  modify fun m => { m with remembered :=
    if m.remembered.contains name || name.toList.contains '/' then m.remembered else m.remembered ++ [name] }

/-- Tells what a name means, in a sentence or in a word; the status tells whether it means anything. -/
def tell (verbose : Bool) (path? : Option String) (name : String) : Run Nat := do
  let say := fun (sentence word : String) => do
    write 1 ((if verbose then name ++ sentence else word) ++ "\n")
    pure 0
  let m ← get
  if Token.keywords.contains name then say " is a shell keyword" name
  else
    match m.aliases.find? (·.1 == name) with
    | some (_, value) => say (" is an alias for " ++ value) ("alias " ++ name ++ "=" ++ Builtins.requoted value)
    | none =>
      match ← Meaning.ofName true path? name with
      | .function _ => say " is a shell function" name
      | .builtin =>
        say (if Meaning.isSpecial name then " is a special shell builtin" else " is a shell builtin") name
      | .program path _ =>
        let tracked := m.remembered.contains name
        if path?.isNone then remember name
        say ((if tracked then " is a tracked alias for " else " is ") ++ path) path
      | .denied =>
        if name.toList.contains '/' then say (" is " ++ name) name
        else
          if verbose then write 1 (name ++ ": not found\n")
          pure 127
      | .absent =>
        if verbose then write 1 (name ++ ": not found\n")
        pure 127

def type (args : List String) : Run Nat := do
  let (_, names) ← Builtins.options "" args
  Tools.forEach (tell true none) names

def hash (args : List String) : Run Nat := do
  let (letters, names) ← Builtins.options "rv" args
  if letters.contains 'r' then
    modify fun m => { m with remembered := [] }
    pure 0
  else if names.isEmpty then
    for name in (← get).remembered do
      match ← Meaning.ofProgram none name with
      | .program path _ => write 1 (path ++ "\n")
      | _ => pure ()
    pure 0
  else Tools.forEach (fun name => do
    match ← Meaning.ofName true none name with
    | .program .. =>
      remember name
      pure 0
    | .absent =>
      complain (name ++ ": not found")
      pure 1
    | .denied =>
      complain (name ++ ": Permission denied")
      pure 1
    | _ => pure 0) names

def which (args : List String) : Run Nat := do
  let names := args.filter (· != "-a")
  let found ← names.mapM fun name => do
    match ← Meaning.ofProgram none name with
    | .program path _ =>
      write 1 (path ++ "\n")
      pure true
    | _ => pure false
  pure (if found.all id && !names.isEmpty then 0 else 1)

end Lookup

end Stepwise.Shell
