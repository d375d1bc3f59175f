import Stepwise.Capability.Catalogue
import Stepwise.Capability.Files
import Stepwise.Plugin.Basic
import Stepwise.Settings.Basic
import Stepwise.Text.Blank
import Stepwise.Text.Lines

/-!
References to extensions and plugins: a module or a file, and after the last colon the name of what
is taken from it. The colon of a drive letter separates nothing.
-/

namespace Stepwise

/-- Where something is taken from, and what. -/
structure Reference where
  target : String
  name : String
  deriving DecidableEq, Repr

namespace Reference

/-- Whether a colon belongs to a drive letter. -/
def isDrive (target name : List Char) : Bool :=
  target.length == 1 && (name.head? == some '\\' || name.head? == some '/')

/-- The parts of a reference, with the name to take when none is given. -/
def split (ref fallback : String) : Reference :=
  let cs := Text.trim ref.toList
  match Text.cutLast ':' cs with
  | none => ⟨String.ofList cs, fallback⟩
  | some (target, name) =>
    if isDrive target name then ⟨String.ofList cs, fallback⟩
    else
      let name := Text.trim name
      ⟨String.ofList target, if name.isEmpty then fallback else String.ofList name⟩

end Reference

end Stepwise

/-!
Where references are looked up: modules by their dotted names, and script files by their paths. A
dotted name needs its parents, and a script has to be there as a file.
-/

namespace Stepwise

/-- What a module or a script offers under a name. Classes are built when they are taken up, which
may fail. -/
inductive Offer (σ : Type)
  | extensionClass (name : String) (build : Except Fault (Extension σ))
  | extension (name : String) (e : Extension σ)
  | pluginClass (name : String) (build : Except Fault (Settings → Plugin σ))
  | plugin (p : Plugin σ)
  | plain (v : Value)

/-- An offer as a value. -/
def Offer.asValue {σ : Type} : Offer σ → Value
  | extensionClass name _ => .handle ("<class " ++ name ++ ">")
  | extension name _ => .handle ("<instance " ++ name ++ ">")
  | pluginClass name _ => .handle ("<class " ++ name ++ ">")
  | plugin p => .handle ("<instance " ++ p.name ++ ">")
  | plain v => v

/-- The names a module or a script offers. -/
abbrev Offers (σ : Type) := List (String × Offer σ)

/-- The modules and scripts that can be referred to; running a script may fail. -/
structure Library (σ : Type) where
  modules : List (String × Offers σ)
  scripts : List (Path × Except Fault (Offers σ))

namespace Library

variable {σ : Type}

/-- A dotted name without its last part. -/
def parentOf (name : String) : String :=
  match Text.cutLast '.' name.toList with
  | some (parent, _) => String.ofList parent
  | none => ""

/-- The fault of a module that is not there. -/
def missing (name suffix : String) : Fault :=
  .general .missingModule ("No module named " ++ Text.quoted name ++ suffix)

/-- What every module tells of itself. -/
def moduleMembers (name : String) : Offers σ :=
  [("__name__", .plain (.text name)), ("__doc__", .plain .null), ("__package__", .plain .null),
    ("__loader__", .plain .null), ("__spec__", .plain .null)]

/-- What every script tells of itself. -/
def scriptMembers (path : Path) : Offers σ :=
  [("__doc__", .plain .null), ("__file__", .plain (.text path.text)), ("__package__", .plain (.text ""))]

/-- The offers of a module, its name having at most `n` dots. -/
def importModule (l : Library σ) : Nat → String → Except Fault (Offers σ)
  | n, name =>
    match l.modules.find? (·.1 == name) with
    | some m => .ok (m.2 ++ moduleMembers name)
    | none =>
      let parent := parentOf name
      if parent.isEmpty then .error (missing name "")
      else
        match n with
        | 0 => .error (missing name "")
        | n + 1 =>
          match importModule l n parent with
          | .error f => .error f
          | .ok _ => .error (missing name ("; " ++ Text.quoted parent ++ " is not a package"))

/-- Whether a target names a script rather than a module. -/
def isScript (target : String) : Bool :=
  ".py".toList.reverse.isPrefixOf target.toList.reverse || target.toList.contains '/' ||
    target.toList.contains '\\'

/-- The offers of a script. -/
def runScript (l : Library σ) (site : Site) (files : FileTree) (target : String) :
    Except Fault (Offers σ) :=
  match Files.expandHome site (Path.ofText target) with
  | .error f => .error f
  | .ok p =>
    let full := site.directory ++ p
    let path : Path := ⟨full.root, Path.collapse [] full.parts⟩
    if path.hasNull then .error FileTree.nullByte
    else
      match l.scripts.find? (·.1 == path) with
      | some s => s.2.map (· ++ scriptMembers path)
      | none =>
        match files.isFile path with
        | .ok true =>
          if ".py".toList.reverse.isPrefixOf path.name.toList.reverse then .ok (scriptMembers path)
          else .error (.general .load ("cannot load module from " ++ path.text))
        | .ok false => .error (.general .load ("file not found: " ++ path.text))
        | .error f => .error f

/-- The offers behind a target. -/
def openTarget (l : Library σ) (site : Site) (files : FileTree) (target : String) :
    Except Fault (Offers σ) :=
  if isScript target then runScript l site files target
  else if target.toList.head? = some '.' then
    .error (.general .type
      ("the 'package' argument is required to perform a relative import for " ++ Text.quoted target))
  else importModule l target.length target

/-- The fault of a target that could not be opened. -/
def loadFault (target : String) : Fault → Fault
  | .general .load text => .general .load text
  | f => .general .load ("cannot import " ++ target ++ ": " ++ f.message)

/-- What a reference stands for, `fallback` being the name to take when it gives none. -/
def load (l : Library σ) (site : Site) (files : FileTree) (ref fallback : String) :
    Except Fault (Offer σ) :=
  let r := Reference.split ref fallback
  if r.target.isEmpty then .error (.general .load ("empty reference: " ++ Text.quoted ref))
  else
    match openTarget l site files r.target with
    | .error f => .error (loadFault r.target f)
    | .ok offers =>
      match offers.find? (·.1 == r.name) with
      | some o => .ok o.2
      | none => .error (.general .load (r.target ++ " has no attribute " ++ Text.quoted r.name))

end Library

end Stepwise
