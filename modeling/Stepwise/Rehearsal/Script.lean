import Stepwise.Reference.Library

/-!
Scripted extensions and plugins: methods and hooks that follow simple given manners.
-/

namespace Stepwise.Rehearsal

/-- How a scripted method behaves. -/
inductive Manner
  | echo
  | all
  | join
  | constant (v : Value)
  | raises (f : Fault)

/-- What a scripted method answers. -/
def Manner.answer : Manner → List Value → Except Fault Value
  | echo, args => .ok (args.headD .null)
  | all, args => .ok (.list args)
  | join, args => .ok (.text (Text.joinText "|" (args.map Value.display)))
  | constant v, _ => .ok v
  | raises f, _ => .error f

/-- A scripted method. -/
def Manner.handler {σ : Type} (m : Manner) (deferred : Bool) : Handler σ :=
  .method deferred fun args => Act.ofExcept (m.answer args)

/-- The name of the method that tells what an extension declares. -/
def declaringName : String := "describe_capabilities"

/-- The fault of a method that takes no arguments but got some. -/
def unexpected (method : String) (given : Nat) : Fault :=
  .general .type (method ++ "() takes 1 positional argument but " ++ toString (given + 1) ++ " were given")

/-- What a scripted extension declares: what it was given, or what a method of its own answers, or
nothing. -/
inductive Declaring
  | given (declared : Except Fault Value) (told : Except Fault Value)
  | method (m : Manner) (deferred : Bool)
  | value (v : Value)
  | nothing

namespace Declaring

/-- What is seen of the declaring. -/
def deeds : Declaring → List Deed
  | method _ false => [.call declaringName []]
  | _ => []

/-- What is declared. -/
def declared : Declaring → Except Fault Value
  | given v _ => v
  | method m false => m.answer []
  | method _ true => .error (.general .type "'coroutine' object is not iterable")
  | value v => .error (.general .type ("'" ++ v.kindName ++ "' object is not callable"))
  | nothing => .ok (.list [])

/-- The method that declares, as a capability of its own. What is given is told without being seen
as a call. -/
def handler {σ : Type} : Declaring → Handler σ
  | given _ told => .teller fun n =>
    if n = 0 then told else .error (unexpected "make_extension.<locals>.describe" n)
  | method m deferred => m.handler deferred
  | value v => .value v
  | nothing => .teller fun n =>
    if n = 0 then .ok (.list []) else .error (unexpected "BaseExtension.describe_capabilities" n)

end Declaring

/-- A scripted extension. Every extension has a context and its declarations; its name is that of its
class unless an attribute tells another one. -/
def extension {σ : Type} (className : String) (declaring : Declaring) (context : Value)
    (attributes : List (String × Handler σ)) : Extension σ where
  name := ((attributes.find? (·.1 == "name")).map (·.2.asValue)).getD (.text className)
  declaring := declaring.deeds
  declarations := declaring.declared
  attributes := [("context", .value context), (declaringName, declaring.handler)] ++ attributes ++
    [("name", .value (.text className))]

/-- Declarations that are validated by the extension itself. -/
def validated : Value → Except Fault Value
  | .list items =>
    match items.mapM Descriptor.validate with
    | .ok _ => .ok (.list items)
    | .error r => .error (.invalid r)
  | v => .ok v

/-- Validated declarations as they are told to who asks for them. -/
def descriptors : Value → Value
  | .list items => .list (items.map fun _ => .handle "<CapabilityDescriptor>")
  | v => v

/-- What a scripted hook does with the value that passes. -/
inductive Action
  | nothing
  | same
  | answers (v : Value)
  | raises (f : Fault)
  | tuple
  | append (text : String)
  | replace (old new : String)
  | push (v : Value)
  | drop
  | reverse
  | onKind (kind : StepKind) (v : Value)
  | revise (old new : String)

/-- The value that passes at a point; where plugins only watch, nothing does. -/
def passing : HookCall → Value
  | .start => .null
  | .beforeRequest messages => .list (messages.map Message.toWire)
  | .afterReply reply => .text reply
  | .afterParse plan => Plan.toWire plan
  | .beforeStep _ _ step => step.toWire
  | .afterStep .. => .null
  | .afterRun .. => .null

/-- The word for the kind of what passes at a point. -/
def passingKind : HookCall → String
  | .beforeStep .. => "Step"
  | call => (passing call).kindName

/-- A text put before each character of another one, and at its end. -/
def interleaved (new : List Char) : List Char → List Char
  | [] => new
  | c :: rest => new ++ c :: interleaved new rest

/-- A text with every occurrence of another replaced; the empty text occurs around each character. -/
def replaced (old new s : String) : String :=
  String.ofList (if old.isEmpty then interleaved new.toList s.toList
    else Text.substitute old.toList new.toList s.toList)

/-- A text as the tuple of its characters, in words. -/
def tupleText (s : String) : String :=
  match s.toList.map fun c => Text.quoted (String.ofList [c]) with
  | [c] => "(" ++ c ++ ",)"
  | cs => "(" ++ Text.joinText ", " cs ++ ")"

/-- The fault of an operation that what passes at a point does not have. -/
def noOperation (call : HookCall) (operand : String) : Fault :=
  let kind := passingKind call
  .general .type (if kind = "str" ∨ kind = "list" then
    "can only concatenate " ++ kind ++ " (not \"" ++ operand ++ "\") to " ++ kind
    else "unsupported operand type(s) for +: '" ++ kind ++ "' and '" ++ operand ++ "'")

/-- The fault of a method that what passes at a point does not have. -/
def noMethod (call : HookCall) (name : String) : Fault :=
  .general .attribute ("'" ++ passingKind call ++ "' object has no attribute '" ++ name ++ "'")

/-- The fault of taking a part of what has no parts. -/
def noParts (call : HookCall) : Fault :=
  .general .type ("'" ++ passingKind call ++ "' object is not subscriptable")

/-- The step that passes at a point, if one does. -/
def stepAt : HookCall → Option Step
  | .beforeStep _ _ step => some step
  | .afterStep _ _ step _ => some step
  | _ => none

/-- What a scripted hook answers. -/
def Action.answer (a : Action) (call : HookCall) : Except Fault Value :=
  match a, passing call with
  | nothing, _ => .ok .null
  | same, v => .ok v
  | answers v, _ => .ok v
  | raises f, _ => .error f
  | append t, .text s => .ok (.text (s ++ t))
  | append _, _ => .error (noOperation call "str")
  | replace old new, .text s => .ok (.text (replaced old new s))
  | replace .., _ => .error (noMethod call "replace")
  | push v, .list items => .ok (.list (items ++ [v]))
  | push _, _ => .error (noOperation call "list")
  | drop, .text s => .ok (.text (String.ofList (s.toList.drop 1)))
  | reverse, .text s => .ok (.text (String.ofList s.toList.reverse))
  | drop, .list items => .ok (.list (items.drop 1))
  | reverse, .list items => .ok (.list items.reverse)
  | drop, _ => .error (noParts call)
  | reverse, _ => .error (noParts call)
  | tuple, .text s => .ok (.text (tupleText s))
  | tuple, .list items => .ok (.list items)
  | tuple, .null => .error (.general .type "'NoneType' object is not iterable")
  | tuple, _ => .ok (.handle "<tuple>")
  | onKind k v, _ => .ok (if ((stepAt call).map (·.kind)) = some k then v else .null)
  | revise old new, _ =>
    match stepAt call with
    | some step => .ok ({ step with content := replaced old new step.content }).toWire
    | none => .ok .null

/-- A scripted plugin; points without an action are left alone. -/
def plugin {σ : Type} (name : String) (actions : List (String × Action)) : Plugin σ where
  name := name
  hook call := (actions.find? (·.1 == call.name)).map fun a => Act.ofExcept (a.2.answer call)

end Stepwise.Rehearsal
