import Stepwise.Text.Case

/-!
Levels of diagnostics, and who they come from. The least level that is kept may also be none at all,
which keeps everything.
-/

namespace Stepwise

/-- How grave a diagnostic is. -/
inductive Level
  | debug
  | info
  | warning
  | error
  | critical
  deriving DecidableEq, Repr

namespace Level

/-- The rank of a level. -/
def rank : Level → Nat
  | debug => 10
  | info => 20
  | warning => 30
  | error => 40
  | critical => 50

/-- The word for a level. -/
def name : Level → String
  | debug => "DEBUG"
  | info => "INFO"
  | warning => "WARNING"
  | error => "ERROR"
  | critical => "CRITICAL"

def all : List Level := [debug, info, warning, error, critical]

/-- Other words for levels. -/
def aliases : List (String × Level) := [("WARN", warning), ("FATAL", critical)]

/-- The level of a word in capitals. -/
def ofName? (s : String) : Option Level :=
  match all.find? (·.name == s) with
  | some l => some l
  | none => (aliases.find? (·.1 == s)).map (·.2)

end Level

/-- The least level that is kept, none standing for all levels. -/
abbrev Threshold := Option Level

namespace Threshold

/-- The word for a threshold. -/
def name : Threshold → String
  | some l => l.name
  | none => "NOTSET"

/-- The threshold of a word in capitals. -/
def ofName? (s : String) : Option Threshold :=
  if s = "NOTSET" then some none else (Level.ofName? s).map some

/-- Whether a level is kept. -/
def admits (t : Threshold) (l : Level) : Bool := t.all fun least => decide (least.rank ≤ l.rank)

end Threshold

/-- The part of the program that a diagnostic comes from. -/
inductive Source
  | root
  | planning
  | registry
  | toolbox
  | plugins
  | loading
  | factory
  | dispatcher
  | commands
  | code
  | service
  | program
  deriving DecidableEq, Repr

/-- The name of a source in the journal. -/
def Source.name : Source → String
  | root => "root"
  | planning => "ai_cmd.agent_core.planning.steps"
  | registry => "ai_cmd.agent_core.capabilities.registry"
  | toolbox => "ai_cmd.agent_core.capabilities.builtin"
  | plugins => "ai_cmd.agent_core.plugins.pipeline"
  | loading => "ai_cmd.agent_core.loading"
  | factory => "ai_cmd.agent_core.factory"
  | dispatcher => "ai_cmd.agent_core.runtime.dispatcher"
  | commands => "ai_cmd.agent_core.runtime.commands"
  | code => "ai_cmd.agent_core.runtime.code"
  | service => "ai_cmd.agent_core.service"
  | program => "ai_cmd.cli"

end Stepwise
