import Stepwise.FileTree.Error
import Stepwise.Number.Numeral
import Stepwise.Validation.Report
import Stepwise.Value.Display

/-!
The ways in which work fails, as causes. A collaborator may fail in a general way and with any
text; the engine's own faults carry what they are about, and `message` puts them into words.
-/

namespace Stepwise

/-- The general kinds of failure. -/
inductive FaultKind
  | value
  | type
  | key
  | runtime
  | system
  | lookup
  | attribute
  | missingModule
  | importing
  | zeroDivision
  | syntaxError
  | recursion
  | assertion
  | encoding
  | decoding
  | settings
  | timeout
  | reply
  | load
  | handler
  | engine
  deriving DecidableEq, Repr

/-- Why something failed. -/
inductive Fault
  | general (kind : FaultKind) (text : String)
  | unknownCapability (space name : String)
  | commandFailed (command : String) (exitCode : Option Int) (detail : Option String)
  | depthExceeded (limit : Value)
  | hookFailed (plugin hook : String) (cause : Fault)
  | duplicate (name : String)
  | invalid (report : Report)
  | badDeclaration (extension : String) (report : Report)
  | overlong (o : Overlong)
  | tooDeep
  | system (error : SystemError)
  | undecodable (text : String)
  deriving DecidableEq, Repr

namespace Fault

/-- The text of a fault that is given several values: one stands for itself, more are listed. -/
def textOf : List Value → String
  | [] => ""
  | [v] => v.display
  | vs => "(" ++ Text.joinText ", " (vs.map Value.shown) ++ ")"

/-- An optional exit code in words. -/
def exitText : Option Int → String
  | some code => toString code
  | none => "None"

/-- A capability that there is not, in words. -/
def unknownText (space name : String) : String := "unknown capability: " ++ space ++ "." ++ name

/-- The failure of a command, in words; nothing is said of an empty detail. -/
def commandText (command exit detail : String) : String :=
  "command failed with exit code " ++ exit ++ ": " ++ command ++
    (if detail.isEmpty then "" else " (" ++ detail ++ ")")

/-- The refusal of a deeper request, in words. -/
def depthText (limit : String) : String :=
  "recurse step refused: maximum recursion depth " ++ limit ++ " reached"

/-- The failure of a plugin, in words. -/
def hookText (plugin hook cause : String) : String :=
  "Error in plugin " ++ plugin ++ "." ++ hook ++ ": " ++ cause

/-- A name that is taken, in words. -/
def duplicateText (name : String) : String := "capability already registered: " ++ name

/-- The fault in words. -/
def message : Fault → String
  | general .key text => Text.quoted text
  | general _ text => text
  | unknownCapability space name => unknownText space name
  | commandFailed command exitCode detail => commandText command (exitText exitCode) (detail.getD "")
  | depthExceeded limit => depthText limit.display
  | hookFailed plugin hook cause => hookText plugin hook (message cause)
  | duplicate name => duplicateText name
  | invalid report => report.message
  | badDeclaration ext report =>
    "invalid capability declaration in " ++ ext ++ ": " ++ report.message
  | overlong o => o.message
  | tooDeep => ""
  | system error => error.message
  | undecodable text => text

/-- The items of a value, or the fault that it has none. -/
def elements (v : Value) : Except Fault (List Value) :=
  v.elements.mapError fun kind => general .type ("'" ++ kind ++ "' object is not iterable")

/-- Whether a fault comes from the file system. -/
def isSystem : Fault → Bool
  | system _ => true
  | general .system _ => true
  | _ => false

end Fault

end Stepwise
