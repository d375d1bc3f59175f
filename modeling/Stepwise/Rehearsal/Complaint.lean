import Stepwise.Capability.Arity
import Stepwise.Fault

/-!
Complaints made on their own, by the name of their kind and from any arguments.
-/

namespace Stepwise.Rehearsal

/-- A complaint: its words, the kinds it belongs to, the narrowest first, and what it is about. -/
structure Complaint where
  message : String
  kinds : List String
  subjects : List (String × Value)
  deriving DecidableEq, Repr

namespace Complaint

/-- The kind of all complaints of the program. -/
def generalKind : String := "AICmdError"

/-- The kind of complaints about a step. -/
def handlerKind : String := "HandlerFailure"

/-- The parameters of kinds that have their own, and how many of them may be left out. -/
def parameters : List (String × List String × Nat) :=
  [("CapabilityNotFoundError", ["qualified_name", "namespace"], 0),
    ("CommandFailedError", ["command", "exit_code", "detail"], 1),
    ("RecursionDepthExceededError", ["limit"], 0), ("HookFailure", ["plugin", "hook", "cause"], 0),
    ("DuplicateCapabilityError", ["qualified_name"], 0)]

/-- The kinds that a kind belongs to. -/
def lineage (kind : String) : List String :=
  if kind = generalKind then [kind]
  else if kind = handlerKind ∨ ["CapabilityNotFoundError", "CommandFailedError",
      "RecursionDepthExceededError"].contains kind then
    kind :: (if kind = handlerKind then [] else [handlerKind]) ++ [generalKind]
  else [kind, generalKind]

/-- The words of a complaint. -/
def words (kind : String) (args : List Value) : String :=
  let arg := fun n => (args.getD n .null).display
  if kind = "CapabilityNotFoundError" then Fault.unknownText (arg 1) (arg 0)
  else if kind = "CommandFailedError" then
    Fault.commandText (arg 0) (arg 1) (if (args.getD 2 .null).isSomething then arg 2 else "")
  else if kind = "RecursionDepthExceededError" then Fault.depthText (arg 0)
  else if kind = "HookFailure" then Fault.hookText (arg 0) (arg 1) (arg 2)
  else if kind = "DuplicateCapabilityError" then Fault.duplicateText (arg 0)
  else Fault.textOf args

/-- What a complaint is about. -/
def about (kind : String) (args : List Value) : List (String × Value) :=
  let named := ((parameters.find? (·.1 == kind)).map fun p => p.2.1.zip args).getD []
  (named.filter (·.1 != "detail")).map fun m => (m.1, if m.1 = "cause" then .text m.2.display else m.2)

/-- The complaint of a kind with arguments, if their number fits. -/
def make (kind : String) (args : List Value) : Except Fault Complaint :=
  match (parameters.find? (·.1 == kind)).bind fun p =>
      Arity.refusal? (kind ++ ".__init__") p.2.1 p.2.2 args.length with
  | some text => .error (.general .type text)
  | none => .ok ⟨words kind args, lineage kind, about kind args⟩

end Complaint

end Stepwise.Rehearsal
