import Stepwise.Json.Printer
import Stepwise.Number.Numeral
import Stepwise.Text.Blank
import Stepwise.Text.Case
import Stepwise.Validation.Report

/-!
Steps of a plan. On the wire the kind is the member `type`, or else `kind`, given by number, by
numeral or by name; whatever denotes no kind means a text answer, except digit-like text that is no
numeral, which is refused. Contents that are not texts are kept as their JSON text.
-/

namespace Stepwise

/-- What a step does. -/
inductive StepKind
  | answer
  | call
  | command
  | code
  | recurse
  deriving DecidableEq, Repr, Inhabited

namespace StepKind

/-- The number of a kind on the wire. -/
def number : StepKind → Nat
  | answer => 1
  | call => 2
  | command => 3
  | code => 4
  | recurse => 5

/-- The name of a kind on the wire. -/
def name : StepKind → String
  | answer => "text_answer"
  | call => "capability_call"
  | command => "shell_command"
  | code => "code_block"
  | recurse => "recurse"

def all : List StepKind := [answer, call, command, code, recurse]

/-- The kind with a number; a number of no kind means a text answer. -/
def ofNumber (i : Int) : StepKind := (all.find? fun k => (k.number : Int) == i).getD answer

/-- The kind that a text denotes; `none` for digit-like text that is no numeral. -/
def ofText (s : String) : Option StepKind :=
  let word := Text.lower (Text.trim s.toList)
  match all.find? fun k => k.name.toList == word with
  | some k => some k
  | none =>
    if !word.isEmpty && word.all Text.isDigitLike then
      if word.all Text.isDecimal then
        match Numeral.read word with
        | .ok n => some (ofNumber n)
        | .error _ => none
      else none
    else some answer

/-- The kind that a value denotes. -/
def ofValue : Value → Option StepKind
  | .text s => ofText s
  | .int i => some (ofNumber i)
  | .bool b => some (ofNumber (if b then 1 else 0))
  | .double d => some (d.toInt?.elim answer ofNumber)
  | _ => some answer

end StepKind

/-- One unit of a plan. -/
structure Step where
  kind : StepKind
  content : String
  description : String
  deriving DecidableEq, Repr, Inhabited

namespace Step

/-- A step that answers with a text. -/
def answer (content : String) : Step := ⟨.answer, content, ""⟩

/-- The text that a member stands for. -/
def contentText : Value → String
  | .null => ""
  | .text s => s
  | v => Json.print v

/-- The member that gives the kind, with its name. -/
def kindMember (members : List (String × Value)) : Option (String × Value) :=
  match Value.lookup members "type" with
  | some v => some ("type", v)
  | none => (Value.lookup members "kind").map fun v => ("kind", v)

/-- The step that an object describes; members of other names are ignored. -/
def ofMembers (members : List (String × Value)) : Except Report Step :=
  let content := contentText ((Value.lookup members "content").getD .null)
  let description := contentText ((Value.lookup members "description").getD .null)
  match kindMember members with
  | none => .ok ⟨.answer, content, description⟩
  | some (key, v) =>
    match StepKind.ofValue v with
    | some k => .ok ⟨k, content, description⟩
    | none => .error (.one "Step" [key] .unreadable)

/-- The step that a value describes. -/
def validate : Value → Except Report Step
  | .object members => ofMembers members
  | _ => .error (.one "Step" [] .notObject)

/-- The step for an item of a plan: what describes no step is a text answer. -/
def ofItem : Value → Step
  | .text s => answer s
  | .object members =>
    match ofMembers members with
    | .ok s => s
    | .error _ => answer (Json.print (.object members))
  | v => answer (Json.print v)

/-- A step in wire form. -/
def toWire (s : Step) : Value :=
  .object [("type", .int s.kind.number), ("content", .text s.content),
    ("description", .text s.description)]

end Step

end Stepwise
