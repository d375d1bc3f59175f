import Stepwise.Act
import Stepwise.FileTree.Basic
import Stepwise.FileTree.Error
import Stepwise.Text.Utf8

/-!
Following a path through a tree. Double dots lead to the directory above, links are replaced by
their targets up to a fixed number, and every step but the last must end in a directory.
-/

namespace Stepwise.FileTree

/-- Where a path leads: a place, and the node there. Without a node the place lies in a directory. -/
structure Spot where
  place : Place
  node : Option Node
  deriving DecidableEq, Repr

/-- The longest name, in bytes. -/
def longestName : Nat := 255

/-- The longest path, in bytes. -/
def longestPath : Nat := 4095

/-- The number of bytes in a text. -/
def byteLength (s : String) : Nat := (Text.Utf8.encode s.toList).length

/-- How a walk goes on after a link: from a place along names. -/
abbrev Onward := Place → List String → Except Errno Spot

/-- Walks along names from a directory; `onward` goes on after each link. A link at the very end is
itself the result unless it is to be followed. -/
def walkFrom (t : FileTree) (follow : Bool) (onward : Onward) (here : Place) :
    List String → Except Errno Spot
  | [] => .ok ⟨here, some .directory⟩
  | name :: rest =>
    if name = "." then walkFrom t follow onward here rest
    else if name = ".." then walkFrom t follow onward here.dropLast rest
    else if longestName < byteLength name then .error .nameTooLong
    else
      match t.find? (here ++ [name]) with
      | none => if rest.isEmpty then .ok ⟨here ++ [name], none⟩ else .error .noEntry
      | some .directory => walkFrom t follow onward (here ++ [name]) rest
      | some (.file bytes) =>
        if rest.isEmpty then .ok ⟨here ++ [name], some (.file bytes)⟩ else .error .notDirectory
      | some (.link target) =>
        if rest.isEmpty && !follow then .ok ⟨here ++ [name], some (.link target)⟩
        else if target.isEmpty then .error .noEntry
        else
          let goal := Path.ofText target
          onward (if goal.root.isEmpty then here else []) (goal.parts ++ rest)

/-- A walk that may meet `n` links. -/
def walk (t : FileTree) (follow : Bool) : Nat → Onward
  | 0 => fun here names => walkFrom t follow (fun _ _ => .error .loop) here names
  | n + 1 => fun here names => walkFrom t follow (walk t follow n) here names

/-- The most links that one walk may meet. -/
def linkLimit : Nat := 40

/-- Where a path leads from the root. -/
def locate (t : FileTree) (follow : Bool) (p : Path) : Except Errno Spot :=
  if longestPath < byteLength p.text then .error .nameTooLong
  else walk t follow linkLimit [] p.parts

end Stepwise.FileTree

/-!
The basic operations on a tree of files. Each either succeeds or fails with an error about its
paths and leaves the tree as it was.
-/

namespace Stepwise.FileTree

/-- The fault of an error about paths. -/
def refuse {α : Type} (e : Errno) (paths : List Path) : Except Fault α :=
  .error (.system ⟨e, paths.map Path.text⟩)

/-- The fault of a path with a null character. -/
def nullByte : Fault := .general .value "embedded null byte"

/-- Where a path leads. -/
def spot (t : FileTree) (follow : Bool) (p : Path) : Except Fault Spot :=
  if p.hasNull then .error nullByte
  else
    match t.locate follow p with
    | .ok s => .ok s
    | .error e => refuse e [p]

/-- The node at a path. -/
def status (t : FileTree) (follow : Bool) (p : Path) : Except Fault Node :=
  match t.spot follow p with
  | .error f => .error f
  | .ok s =>
    match s.node with
    | some n => .ok n
    | none => refuse .noEntry [p]

/-- A question about a path; errors that mean absence, and null characters, answer it with no. -/
def question (t : FileTree) (p : Path) (ask : Node → Bool) : Except Fault Bool :=
  match t.status true p with
  | .ok n => .ok (ask n)
  | .error (.system e) => if e.errno.meansAbsent then .ok false else .error (.system e)
  | .error f => if f = nullByte then .ok false else .error f

/-- Whether there is anything at a path, links followed. -/
def present (t : FileTree) (p : Path) : Except Fault Bool := t.question p fun _ => true

/-- Whether there is a directory at a path. -/
def isDirectory (t : FileTree) (p : Path) : Except Fault Bool := t.question p (· == .directory)

/-- Whether there is a file at a path. -/
def isFile (t : FileTree) (p : Path) : Except Fault Bool :=
  t.question p fun n => match n with | .file _ => true | _ => false

/-- The tree with a new directory. -/
def makeDirectory (t : FileTree) (p : Path) : Except Fault FileTree :=
  match t.spot false p with
  | .error f => .error f
  | .ok s => if s.node.isSome then refuse .exists [p] else .ok (t.put s.place .directory)

/-- The tree with the bytes of a file replaced or a new file made. `change` gets the old bytes. -/
def writeFile (t : FileTree) (p : Path) (change : List UInt8 → List UInt8) : Except Fault FileTree :=
  match t.spot true p with
  | .error f => .error f
  | .ok s =>
    match s.node with
    | some .directory => refuse .isDirectory [p]
    | some (.file bytes) => .ok (t.put s.place (.file (change bytes)))
    | _ => .ok (t.put s.place (.file (change [])))

/-- The bytes of a file. -/
def readFile (t : FileTree) (p : Path) : Except Fault (List UInt8) :=
  match t.status true p with
  | .error f => .error f
  | .ok (.file bytes) => .ok bytes
  | .ok _ => refuse .isDirectory [p]

/-- The tree without a file or link. -/
def removeFile (t : FileTree) (p : Path) : Except Fault FileTree :=
  match t.spot false p with
  | .error f => .error f
  | .ok s =>
    match s.node with
    | none => refuse .noEntry [p]
    | some .directory => refuse .isDirectory [p]
    | some _ => .ok (t.erase s.place)

/-- The tree without an empty directory. -/
def removeDirectory (t : FileTree) (p : Path) : Except Fault FileTree :=
  match t.spot false p with
  | .error f => .error f
  | .ok s =>
    match s.node with
    | none => refuse .noEntry [p]
    | some .directory =>
      if s.place.isEmpty then refuse .busy [p]
      else if p.name = ".." ∨ !(t.names s.place).isEmpty then refuse .notEmpty [p]
      else .ok (t.erase s.place)
    | some _ => refuse .notDirectory [p]

/-- Why a node may not take the place of another. -/
def renameError? (t : FileTree) (old new : Spot) : Option Errno :=
  if isInside new.place old.place then some .invalid
  else if isInside old.place new.place then some .notEmpty
  else
    match old.node, new.node with
    | none, _ => some .noEntry
    | some _, none => none
    | some .directory, some .directory =>
      if old.place ≠ new.place ∧ !(t.names new.place).isEmpty then some .notEmpty else none
    | some .directory, some _ => some .notDirectory
    | some _, some .directory => some .isDirectory
    | some _, some _ => none

/-- The tree with a node renamed. -/
def rename (t : FileTree) (p q : Path) : Except Fault FileTree :=
  if p.hasNull || q.hasNull then .error nullByte
  else
    match t.locate false p, t.locate false q with
    | .error e, _ => refuse e [p, q]
    | _, .error e => refuse e [p, q]
    | .ok old, .ok new =>
      if p.name = ".." ∨ q.name = ".." ∨ old.place.isEmpty ∨ new.place.isEmpty then refuse .busy [p, q]
      else
        match t.renameError? old new with
        | some e => refuse e [p, q]
        | none => if old.place = new.place then .ok t else .ok (t.move old.place new.place)

/-- The names in a directory. -/
def list (t : FileTree) (p : Path) : Except Fault (List String) :=
  match t.spot true p with
  | .error f => .error f
  | .ok s =>
    match s.node with
    | some .directory => .ok (t.names s.place)
    | some _ => refuse .notDirectory [p]
    | none => refuse .noEntry [p]

/-- The tree with a new link. -/
def makeLink (t : FileTree) (target : String) (p : Path) : Except Fault FileTree :=
  match t.spot false p with
  | .error f => .error f
  | .ok s => if s.node.isSome then refuse .exists [p] else .ok (t.put s.place (.link target))

end Stepwise.FileTree
