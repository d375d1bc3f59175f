import Stepwise.Capability.Catalogue
import Stepwise.Capability.Files
import Stepwise.Plugin.Basic
import Stepwise.Settings.Basic

/-!
The engine: settings, capabilities and plugins together with the collaborators that reach the world
outside. What collaborators do is arbitrary; the engine only hands over and reports.
-/

namespace Stepwise

/-- How a command ended. -/
structure CommandResult where
  success : Bool
  command : String
  exitCode : Option Int
  stdout : String
  stderr : String
  problem : Option String
  deriving DecidableEq, Repr

namespace CommandResult

/-- What is told of a failed command: what kept it from running, or what it complained of. -/
def detail (r : CommandResult) : Option String :=
  match r.problem.filter (!·.isEmpty) with
  | some p => some p
  | none =>
    let complaint := Text.trimmed r.stderr
    if complaint.isEmpty then none else some complaint

/-- The fault of a failed command. -/
def fault (r : CommandResult) (command : String) : Fault :=
  .commandFailed command r.exitCode r.detail

/-- The output of a command as it is shown. -/
def shown (r : CommandResult) : String :=
  String.ofList (Text.dropEndWhile (· == '\n') r.stdout.toList)

end CommandResult

/-- The collaborators of the engine: the completion provider, the runner of commands, which gets the
seconds it may take, the runner of code, which gets the outputs so far, the tree of files within
the world, and the plugins that are there before the engine puts up its own. -/
structure Host (σ : Type) where
  complete : List Message → Act Deed σ String
  command : Double → String → Act Deed σ CommandResult
  execute : Outputs → String → Act Deed σ Value
  files : σ → FileTree
  putFiles : FileTree → σ → σ
  preceding : List (Settings → Plugin σ) := []

/-- All that a run needs. Each plugin is given as it behaves under the settings of the moment. -/
structure Engine (σ : Type) where
  settings : Settings
  site : Site
  catalogue : Catalogue σ
  plugins : List (Settings → Plugin σ)
  host : Host σ

namespace Engine

variable {σ : Type}

/-- The plugins in the order in which they are called; the one that echoes plans is the first one unless
others were there before. -/
def participants (e : Engine σ) : List (Plugin σ) :=
  e.host.preceding.map (fun p => p e.settings) ++
    .planEcho e.settings.echoPlan :: e.plugins.map fun p => p e.settings

/-- There is always a plugin that is called first. -/
theorem participants_eq_cons (e : Engine σ) : ∃ p ps, e.participants = p :: ps := by
  unfold participants
  cases e.host.preceding with
  | nil => exact ⟨_, _, rfl⟩
  | cons p ps => exact ⟨_, _, rfl⟩

/-- Shows an answer, at once or letter by letter. -/
def answer (e : Engine σ) (s : String) : Act Deed σ Unit :=
  if e.settings.ai.stream then Act.say (.stream s e.settings.streamDelay)
  else Act.say (.show .success s)

/-- Runs a command. -/
def command (e : Engine σ) (text : String) : Act Deed σ CommandResult := do
  Act.say (.command text)
  e.host.command e.settings.commandTimeout text

/-- Asks the completion provider. -/
def complete (e : Engine σ) (purpose : Purpose) (messages : List Message) : Act Deed σ String := do
  Act.say (.request purpose messages)
  e.host.complete messages

end Engine

end Stepwise
