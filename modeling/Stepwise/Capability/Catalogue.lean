import Stepwise.Act
import Stepwise.Call.Basic
import Stepwise.Deed
import Stepwise.Outputs
import Stepwise.Text.Blank
import Stepwise.Text.Case
import Stepwise.Validation.Checked

/-!
What an extension declares about a capability: its name, whether it is a function or a value, the
names of its parameters and a description for the catalogue.
-/

namespace Stepwise

/-- Functions are called with arguments; values are only taken. -/
inductive CapabilityKind
  | function
  | value
  deriving DecidableEq, Repr

/-- The word for a kind. -/
def CapabilityKind.name : CapabilityKind → String
  | function => "function"
  | value => "value"

/-- A declaration of one capability. -/
structure Descriptor where
  name : String
  kind : CapabilityKind
  params : List String
  description : String
  deriving DecidableEq, Repr

namespace Descriptor

/-- The kind that a value names; whatever does not mean a function means a value. -/
def kindOf : Value → CapabilityKind
  | .null => .function
  | .text s =>
    if s.isEmpty || Text.lower (Text.trim s.toList) == "function".toList then .function else .value
  | _ => .value

/-- The declaration that members make, which must have no others. -/
def ofMembers (ms : List (String × Value)) : Checked Descriptor :=
  Checked.closed ["name", "kind", "params", "description"] ms
    (Descriptor.mk <$> Checked.required Checked.nonEmptyText "name" ms
      <*> Checked.optional (fun v => .good (kindOf v)) .function "kind" ms
      <*> Checked.optional Checked.texts [] "params" ms
      <*> Checked.optional Checked.text "" "description" ms)

/-- The declaration that a value makes. -/
def validate (v : Value) : Except Report Descriptor :=
  (Checked.object ofMembers v).report "CapabilityDescriptor"

/-- A function with its parameters. -/
def function (name : String) (params : List String) (description : String) : Descriptor :=
  ⟨name, .function, params, description⟩

/-- A value. -/
def value (name description : String) : Descriptor := ⟨name, .value, [], description⟩

end Descriptor

end Stepwise

/-!
The catalogue of capabilities. Each entry is known by its declared name and the index of the
extension that declared it, so extensions may share names. An extension is taken in as a whole or
not at all.
-/

namespace Stepwise

/-- The capabilities that are built in. -/
inductive Builtin
  | createFile
  | createDirectory
  | modifyFile
  | readFile
  | appendToFile
  | fileExists
  | deleteFile
  | deleteDirectory
  | rename
  | moveFile
  | getFileInfo
  | getFileNameList
  | clearDirectory
  | executeCommand
  | requestAi
  | executeCode
  deriving DecidableEq, Repr

/-- What stands behind a capability. A deferred method does nothing until its result is awaited; a
teller tells what its extension declares, which is not seen as a call, and gets to know only how many
arguments it was given. -/
inductive Handler (σ : Type)
  | value (v : Value)
  | method (deferred : Bool) (call : List Value → Act Deed σ Value)
  | teller (tell : Nat → Except Fault Value)
  | builtin (b : Builtin)

namespace Handler

variable {σ : Type}

/-- Whether a handler can be called. -/
def isCallable : Handler σ → Bool
  | value v => v == .handle "<callable>"
  | _ => true

/-- A handler as a value. -/
def asValue : Handler σ → Value
  | value v => v
  | _ => .handle "<callable>"

end Handler

/-- A source of capabilities: what it calls itself, what it does while it declares, what it declares,
and what stands behind each name. -/
structure Extension (σ : Type) where
  name : Value
  declaring : List Deed
  declarations : Except Fault Value
  attributes : List (String × Handler σ)

/-- The name of an extension in messages. -/
def Extension.title {σ : Type} (e : Extension σ) : String := e.name.display

/-- What stands behind a name. -/
def Extension.attribute? {σ : Type} (e : Extension σ) (name : String) : Option (Handler σ) :=
  (e.attributes.find? (·.1 == name)).map (·.2)

/-- A capability in the catalogue. -/
structure Entry (σ : Type) where
  base : String
  index : Int
  params : List String
  kind : CapabilityKind
  description : String
  handler : Handler σ

namespace Entry

variable {σ : Type}

/-- The name under which a capability is called. -/
def name (e : Entry σ) : String := e.base ++ "_" ++ toString e.index

/-- The entry for a declaration. -/
def ofDescriptor (d : Descriptor) (index : Int) (handler : Handler σ) : Entry σ :=
  ⟨d.name, index, d.params, d.kind, d.description, handler⟩

/-- The name, with the parameters of a function. -/
def signature (e : Entry σ) : String :=
  match e.kind with
  | .function => e.name ++ "(" ++ Text.joinText ", " e.params ++ ")"
  | .value => e.name

/-- The line of an entry, with its number. -/
def line (e : Entry σ) (number : Nat) : String :=
  toString number ++ ". " ++ e.signature ++
    (if e.description.isEmpty then "" else " - " ++ e.description)

end Entry

/-- The capabilities under one name space, in the order in which they were taken in. -/
structure Catalogue (σ : Type) where
  root : String
  entries : List (Entry σ)
  extensions : List Value

namespace Catalogue

variable {σ : Type}

/-- A catalogue without capabilities. -/
def empty (root : String) : Catalogue σ := ⟨root, [], []⟩

/-- What a direct call of a capability begins with. -/
def opening (c : Catalogue σ) : String := c.root ++ "."

/-- The entry of a name. -/
def find? (c : Catalogue σ) (name : String) : Option (Entry σ) := c.entries.find? (·.name == name)

/-- The entry of a name in a name space, none standing for the root. -/
def resolve (c : Catalogue σ) (name : String) (space : Option String) : Option (Entry σ) :=
  match space with
  | some s => if s = c.root then c.find? name else none
  | none => c.find? name

def has (c : Catalogue σ) (name : String) : Bool := (c.find? name).isSome

/-- The catalogue with one more entry, whose name must be new. -/
def add (c : Catalogue σ) (e : Entry σ) : Except Fault (Catalogue σ) :=
  if c.has e.name then .error (.duplicate e.name)
  else .ok { c with entries := c.entries ++ [e] }

/-- The entry for a declaration of an extension. -/
def entryOf (ext : Extension σ) (index : Int) (v : Value) : Except Fault (Entry σ) :=
  match Descriptor.validate v with
  | .error r => .error (.badDeclaration ext.title r)
  | .ok d =>
    match ext.attribute? d.name with
    | none => .error (.general .value (ext.title ++ " declares '" ++ d.name ++ "' but does not implement it"))
    | some h =>
      if d.kind = .function ∧ !h.isCallable then
        .error (.general .value
          (ext.title ++ "." ++ d.name ++ " is declared as a function but is not callable"))
      else .ok (.ofDescriptor d index h)

/-- The entries for declarations, each with a name that neither the catalogue nor those before it
have. -/
def newEntries (c : Catalogue σ) (ext : Extension σ) (index : Int) (made : List (Entry σ)) :
    List Value → Except Fault (List (Entry σ))
  | [] => .ok made
  | v :: vs =>
    match entryOf ext index v with
    | .error f => .error f
    | .ok e =>
      if c.has e.name || made.any (·.name == e.name) then .error (.duplicate e.name)
      else newEntries c ext index (made ++ [e]) vs

/-- Enters one more capability, whose name must be new. -/
def enter (e : Entry σ) : Act Deed (Catalogue σ) Unit := do
  let c ← Act.world
  let c' ← Act.ofExcept (c.add e)
  Act.change fun _ => c'

/-- Takes in an extension, and gives the index that it gets. The declarations are all checked before the
first entry is made. -/
def enrol (ext : Extension σ) : Act Deed (Catalogue σ) Nat := do
  let c ← Act.world
  let index := c.extensions.length
  ext.declaring.forM Act.say
  let v ← Act.ofExcept ext.declarations
  let items ← Act.ofExcept (if v.isSomething then Fault.elements v else .ok [])
  let es ← Act.ofExcept (newEntries c ext index [] items)
  es.forM enter
  Act.change fun c => { c with extensions := c.extensions ++ [ext.name] }
  pure index

/-- The catalogue with all capabilities of an extension, and the index it was given. -/
def register (c : Catalogue σ) (ext : Extension σ) : Except Fault (Catalogue σ × Nat) :=
  let r := (enrol ext).run c
  r.result.map fun index => (r.world, index)

/-- The lines of entries, numbered from a number on. -/
def linesFrom : Nat → List (Entry σ) → List String
  | _, [] => []
  | n, e :: es => e.line n :: linesFrom (n + 1) es

/-- A numbered line for each entry. -/
def describe (c : Catalogue σ) : List String := linesFrom 1 c.entries

/-- The text that tells the completion provider what there is. -/
def text (c : Catalogue σ) : String := Text.joinText "\n" c.describe

/-- All names with what stands behind them. -/
def mapping (c : Catalogue σ) : Value := .object (c.entries.map fun e => (e.name, e.handler.asValue))

/-- The name under which code gets the mapping of all names. -/
def mappingName : String := "as_mapping"

/-- The methods that every object has. -/
def objectMethods : List String :=
  ["__init__", "__getattr__", "__dir__", "__repr__", "__hash__", "__str__", "__getattribute__",
    "__setattr__", "__delattr__", "__lt__", "__le__", "__eq__", "__ne__", "__gt__", "__ge__", "__new__",
    "__reduce_ex__", "__reduce__", "__getstate__", "__subclasshook__", "__init_subclass__", "__format__",
    "__sizeof__"]

/-- What the view that code has of the catalogue holds beside the capabilities. -/
def viewMembers : List (String × Value) :=
  [(mappingName, .handle "<callable>"), ("_registry", .handle "<CapabilityRegistry>"),
    ("__class__", .handle "<class CapabilityNamespace>"),
    ("__dict__", .object [("_registry", .handle "<CapabilityRegistry>")]),
    ("__doc__", .text "Attribute view over a registry, bound as ``base_function`` inside code blocks."),
    ("__module__", .text "ai_cmd.agent_core.capabilities.registry"), ("__weakref__", .null)] ++
    objectMethods.map fun name => (name, .handle "<callable>")

/-- The handler of a name, as code sees it; what the view holds itself comes before the capabilities. -/
def handlerOf (c : Catalogue σ) (name : String) : Except Fault (Handler σ) :=
  match Value.lookup viewMembers name, c.find? name with
  | some v, _ => .ok (.value v)
  | none, some e => .ok e.handler
  | none, none => .error (.general .attribute (c.root ++ " has no capability '" ++ name ++ "'"))

/-- The arguments of a call with references replaced by outputs. -/
def resolveArguments (args : List Argument) (outputs : Outputs) : List Value :=
  args.map fun
    | .literal s => .text s
    | .reference i => outputs.get i

end Catalogue

end Stepwise
