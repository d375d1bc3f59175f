import Stepwise.Code.Execution
import Stepwise.CommandLine
import Stepwise.Console
import Stepwise.Conversation
import Stepwise.Reference.Assembly
import Stepwise.Settings.Environment

/-!
The program as a whole: settings come from the environment and from a file of variables in the
working directory, the command line overrides some of them, and then the capabilities are listed or
requests are answered.
-/

namespace Stepwise

/-- What the program finds around it: where it runs, what can be referred to, the collaborators, and
the lines the user will type. -/
structure Surroundings (σ : Type) where
  site : Site
  library : Library σ
  host : Host σ
  lines : List String

/-- How the program ended: with an exit code or a fault, and with the journal it kept, if it came
to that. -/
structure Conclusion where
  exitCode : Except Fault Nat
  journal : Option Journal

namespace Program

variable {σ : Type} (around : Surroundings σ)

/-- How deep code may run other code. -/
def codeDepth : Nat := 64

/-- The file of variables. -/
def variableFile : Path := around.site.directory.child ".env"

/-- The settings of the environment and of the file of variables. -/
def settings : Act Event (Session σ) Settings := do
  let files := around.host.files (← Act.world).world
  let text := match files.readFile (variableFile around) with
    | .ok bytes => (Text.Utf8.decode? bytes).map String.ofList
    | .error _ => none
  Act.ofExcept (Settings.load around.site.environment text)

/-- The settings with those of the command line in their place. -/
def override (i : Invocation) (s : Settings) : Settings :=
  { s with
    logLevel := (i.logLevel.map Level.name).getD s.logLevel
    echoPlan := i.showPlan || s.echoPlan }

/-- Work on the files. -/
def onFiles {α : Type} (m : Files.FileAct α) : Act Event (Session σ) α :=
  Session.doing (Act.zoom around.host.files around.host.putFiles m)

/-- The journal that settings ask for. -/
def openJournal (stamp : Journal.Stamp) (s : Settings) : Act Event (Session σ) Journal := do
  let c := Journal.choose (some s.logLevel) (some s.logFormat) s.logDirectory around.site.environment
  let j ← onFiles around (Journal.setUp around.site c)
  onFiles around (j.write stamp [c.record])
  Act.say (.deed (.diagnostic .debug .root c.text))
  pure j

/-- The engine for settings; what happens while it is put together is told. -/
def engine (s : Settings) : Act Event (Session σ) (Engine σ) := do
  let files := around.host.files (← Act.world).world
  let (e, events) := Assembly.assemble s around.site around.host around.library files
  (events.flatMap LoadEvent.deeds).forM fun d => Act.say (.deed d)
  pure (Code.equip e codeDepth)

/-- Lists the capabilities. -/
def list (e : Engine σ) : Act Event (Session σ) Nat := do
  e.catalogue.describe.forM fun line => Act.say (.terminal (Console.line line))
  pure 0

/-- Does what the command line asks for. -/
def serve (i : Invocation) (s : Settings) : Act Event (Session σ) Nat := do
  let e ← engine around s
  if i.listCapabilities then list e
  else Conversation.serve e i.request? i.interactive around.lines

/-- An action whose diagnostics are written to the file of the journal when it ends. -/
def journaled {α : Type} (j : Journal) (stamp : Journal.Stamp) (m : Act Event (Session σ) α) :
    Act Event (Session σ) α := fun s =>
  let r := m s
  let records := r.log.filterMap Console.record?
  let written := (onFiles around (j.write stamp records)).run r.world
  ⟨r.result, written.world, r.log⟩

/-- Runs the program. -/
def run (stamp : Journal.Stamp) (i : Invocation) : Act Event (Session σ) Conclusion := do
  let prepared ← Act.attempt do
    let s := override i (← settings around)
    return (s, ← openJournal around stamp s)
  match prepared with
  | .error f => pure ⟨.error f, none⟩
  | .ok (s, j) =>
    let code ← (journaled around j stamp (serve around i s)).attempt
    pure ⟨code, some j⟩

end Program

end Stepwise
