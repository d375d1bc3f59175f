import Stepwise.Engine.Basic
import Stepwise.Shell.Interpreter

/-!
Running one command in a shell of its own. Only a command that cannot be started or that takes too
long has a problem; a command that fails just has an exit code.
-/

namespace Stepwise

/-- How long a command may take. -/
structure Patience where
  shown : String
  microseconds : Nat
  deriving DecidableEq, Repr

/-- The patience of a number of seconds. -/
def Patience.ofSeconds (d : Double) : Patience :=
  match d with
  | .finite _ m e => ⟨d.text, if 0 ≤ e then m * Nat.pow 2 e.toNat * 1000000
    else m * 1000000 / Nat.pow 2 (-e).toNat⟩
  | _ => ⟨d.text, Nat.pow 10 18⟩

namespace Shell

/-- The most bytes that a command may have. -/
def longestCommand : Nat := 131071

/-- How many levels deep commands may be nested. -/
def depth : Nat := 20000

/-- How many steps a shell may take; one that takes more never ends. -/
def budget : Nat := 600000

/-- The number of the process in which a shell runs. -/
def process : Nat := 4242

/-- The variables that a shell begins with. -/
def variablesOf (site : Site) (directory : Path) : List Variable :=
  let given := site.environment.map fun v => (spelled v.1, spelled v.2)
  let standard := [("HOME", spelled site.home.text), ("PATH", Meaning.standardPath),
    ("PWD", spelled directory.text)].filter fun v => !given.any (·.1 == v.1)
  let own := [("IFS", " \t\n"), ("OPTIND", "1"), ("PPID", toString (process - 1)), ("PS1", "# "),
    ("PS2", "> "), ("PS4", "+ ")]
  let isFree := fun (v : String × String) => !own.any (·.1 == v.1)
  ((given ++ standard).filter isFree).map (fun v => ⟨v.1, some v.2, true, false⟩) ++
    own.map fun v => ⟨v.1, some v.2, false, false⟩

/-- A shell in a directory, its input being empty and its output still to come. -/
def start (site : Site) (directory : Path) (patience : Nat) (files : FileTree) : Machine where
  site := site
  files := files
  directory := directory
  name := "/bin/sh"
  parameters := []
  vars := variablesOf site directory
  locals := []
  functions := []
  calls := 0
  loops := 0
  aliases := []
  options := []
  traps := []
  pending := []
  inner := false
  ending := false
  sent := []
  status := 0
  substituted := 0
  line := 1
  label := none
  mask := 18
  option := 1
  letter := 0
  programs := []
  stamps := []
  twins := []
  remembered := []
  streams := #[[], [], []]
  opened := #[]
  channels := [(0, .stream 0), (1, .stream 1), (2, .stream 2)]
  documents := []
  process := process
  spawned := 0
  jobs := []
  lingering := 0
  budget := budget
  elapsed := 0
  patience := patience

/-- The time when nothing is left that could write. -/
def silence (m : Machine) : Nat :=
  ((m.jobs.filter (·.writes)).map (·.ends)).foldl max (max m.lingering m.elapsed)

/-- How a shell ended: with an exit code, negative after a signal, or not in time. -/
def exitCode? (m : Machine) (ended : Except Halt Nat) : Option Int :=
  if m.patience ≤ silence m then none
  else
    match ended with
    | .ok n => some n
    | .error (.exit n) => some n
    | .error (.signal n) => some (-n)
    | .error _ => none

/-- The exit code of a shell that was killed. -/
def killed : Int := -9

/-- The seconds that passed, with two places. -/
def seconds (microseconds : Nat) : String :=
  let hundredths := (microseconds + 5000) / 10000
  toString (hundredths / 100) ++ "." ++ toString (hundredths / 10 % 10) ++ toString (hundredths % 10)

/-- A diagnostic of the runner. -/
def note (level : Level) (s : String) : Act Deed FileTree Unit := Act.say (.diagnostic level .commands s)

/-- The result of a command that has a problem. -/
def problem (command : String) (code : Option Int) (s : String) : Act Deed FileTree CommandResult := do
  note .error s
  pure ⟨false, command, code, "", "", some s⟩

/-- The result of a shell that has ended. -/
def conclude (command : String) (patience : Patience) (ended : Except Halt Nat) (m : Machine) :
    Act Deed FileTree CommandResult := do
  match exitCode? m ended with
  | none =>
    problem command (some killed) ("Command execution timeout after " ++ patience.shown ++ " seconds")
  | some code =>
    let stdout := textOf (m.streams.getD 1 []).bytes
    let stderr := textOf (m.streams.getD 2 []).bytes
    note .info ("Command completed with exit code " ++ toString code ++ " (duration: " ++
      seconds (silence m) ++ "s, stdout: " ++ toString stdout.length ++ " chars, stderr: " ++
      toString stderr.length ++ " chars)")
    pure ⟨code == 0, command, some code, stdout, stderr, none⟩

/-- Runs a command in a directory, the working directory if none is named. -/
def execute (site : Site) (directory : String) (patience : Patience) (command : String) :
    Act Deed FileTree CommandResult := do
  let place := if directory.isEmpty then site.directory.text else directory
  let path := site.directory ++ Path.ofText place
  match (← Act.world).isDirectory path with
  | .ok true =>
    note .info ("Executing command: " ++ command ++ " (cwd=" ++ place ++ ")")
    if command.toList.any (·.toNat == 0) then Act.fail FileTree.nullByte
    else if longestCommand < (Text.Utf8.encode command.toList).length then
      problem command none ("Error starting command: " ++ (SystemError.mk .tooBig ["/bin/sh"]).message)
    else
      let run := Evaluator.ofDepth depth
      let (ended, m) := (Evaluator.conclude run (Evaluator.script run false (spelled command))).run.run
        (start site path patience.microseconds (← Act.world))
      Act.change fun _ => m.files
      conclude command patience ended m
  | _ => problem command none ("Working directory not found: " ++ place)

end Shell

end Stepwise
