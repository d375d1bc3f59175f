import Stepwise.Shell.Expansion
import Stepwise.Shell.Tools.Basic

/-!
Redirections: joining descriptors to files, to other descriptors and to texts. The targets are expanded
before anything is opened.
-/

namespace Stepwise.Shell.Connection

open Run

/-- A redirection whose target is expanded. -/
inductive Link
  | file (descriptor : Nat) (joint : Joint) (name : String)
  | same (descriptor source : Nat)
  | closed (descriptor : Nat)
  | text (descriptor : Nat) (body : Word)

/-- Gives up on a file that cannot be opened. -/
def refuse {α : Type} (verb name : String) (f : Fault) : Run α :=
  let absent := if verb = "open" then "No such file" else "Directory nonexistent"
  fail ("cannot " ++ verb ++ " " ++ name ++ ": " ++ match f with
    | .system ⟨.noEntry, _⟩ => absent
    | .system ⟨.notDirectory, _⟩ => absent
    | f => Tools.reason f)

/-- Whether a descriptor is one that can be named. -/
def descriptor? (s : String) : Option Nat :=
  match s.toList with
  | [c] => if c.isDigit then some (c.toNat - 48) else none
  | _ => none

/-- Opens a file or a device for a descriptor. -/
def opening (d : Nat) (joint : Joint) (name : String) : Run Unit := do
  let p ← locate name
  let reading := joint == .read
  let verb := if reading then "open" else "create"
  match device? p with
  | some (.descriptor n) =>
    match ← channel? n with
    | some c => join d c
    | none => refuse verb name (.system ⟨.noEntry, []⟩)
  | some device => join d (.device device)
  | none =>
    if name.isEmpty then refuse verb name (.system ⟨.noEntry, []⟩)
    else
      let node := (← ask fun t => t.status true p).toOption
      match joint, node with
      | .read, some .directory => join d .directory
      | .read, _ =>
        match ← ask fun t => t.readFile p with
        | .ok _ => join d (.file (← openFile p false))
        | .error f => refuse verb name f
      | .write, some (.file _) =>
        if ← isSet 'C' then refuse verb name (.system ⟨.exists, []⟩) else create p verb fun _ => []
      | .write, _ => create p verb fun _ => []
      | .clobber, _ => create p verb fun _ => []
      | _, _ => create p verb id
where
  /-- Opens a file for writing, making it if needed. -/
  create (p : Path) (verb : String) (change : List UInt8 → List UInt8) : Run Unit := do
    let slashed := name.toList.getLast? == some '/'
    match ← (if slashed then pure (some (.system ⟨.isDirectory, []⟩)) else store p change) with
    | none => join d (.file (← openFile p (joint == .append)))
    | some f => refuse verb name f

variable (output : Command → Run String)

/-- Expands the target of a redirection. -/
def expand (r : Redirection) : Run Link := do
  match r with
  | .document d n => return .text d ((← get).documents.getD n [])
  | .file d .duplicate target =>
    let s ← Expansion.text output target
    if s = "-" then pure (.closed d)
    else
      match descriptor? s with
      | some n => pure (.same d n)
      | none => fail "Syntax error: Bad fd number"
  | .file d joint target => return .file d joint (← Expansion.text output target)

/-- Makes a redirection. -/
def link (l : Link) : Run Unit := do
  match l with
  | .file d joint name => opening d joint name
  | .closed d => close d
  | .same d n =>
    match ← channel? n with
    | some c => join d c
    | none => fail (toString n ++ ": Bad file descriptor")
  | .text d body => do
    let i ← newStream (bytes (← Expansion.document output body))
    join d (.stream i)

/-- Makes redirections; tells whether all of them worked. A target that cannot be expanded is a fault. -/
def links (rs : List Redirection) : Run Bool := do
  let ls ← rs.mapM (expand output)
  try
    ls.forM (link output)
    pure true
  catch
    | .fault n =>
      setStatus n
      pure false
    | h => throw h

end Stepwise.Shell.Connection
