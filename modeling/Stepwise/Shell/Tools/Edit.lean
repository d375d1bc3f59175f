import Stepwise.Shell.Editor.Reader
import Stepwise.Shell.Editor.Space

/-!
Editing lines by a script that is given or stands in files: `sed`.
-/

namespace Stepwise.Shell.Tools

open Run

def sedOptions : List Option_ :=
  lettered "bsnrzuEe:f:l:i::".toList ++
    worded [("binary", 'b', false), ("regexp-extended", 'E', false), ("debug", 'D', false)] ++
    [⟨'i', "in-place", true, true⟩] ++
    worded [("expression", 'e', true), ("file", 'f', true), ("line-length", 'l', true), ("null-data", 'z', false),
      ("zero-terminated", 'z', false), ("quiet", 'n', false), ("posix", 'p', false), ("silent", 'n', false),
      ("sandbox", 'S', false), ("separate", 's', false), ("unbuffered", 'u', false),
      ("follow-symlinks", 'F', false)]

/-- The pieces of a script: expressions, which are counted, and files. -/
def piecesOf (p : Parsed) : Run (Except String (List (Editor.Origin × List Char))) := do
  let given := p.options.filter fun o => o.1 = 'e' || o.1 = 'f'
  let step := fun (acc : Except String (List (Editor.Origin × List Char) × Nat)) (o : Char × String) => do
    match acc with
    | .error e => pure (.error e)
    | .ok (pieces, k) =>
      if o.1 = 'e' then pure (.ok (pieces ++ [(.expression (k + 1), o.2.toList)], k + 1))
      else
        match ← contents o.2 with
        | .ok cs => pure (.ok (pieces ++ [(.file o.2, cs)], k))
        | .error f => pure (.error ("couldn't open file " ++ o.2 ++ ": " ++ reason f))
  if given.isEmpty then pure (.ok [(.expression 1, (p.operands.headD "").toList)])
  else return (← given.foldlM step (.ok ([], 0))).map (·.1)

def sed (run : Launcher) (args : List String) : Run Nat := do
  withOptions "sed" 1 sedOptions false args fun p => do
    let implied := !(p.has 'e' || p.has 'f')
    if implied && p.operands.isEmpty then fault "sed" "no script specified" 1
    else
      match ← piecesOf p with
      | .error e => fault "sed" e 4
      | .ok pieces =>
        match Editor.Script.read (p.has 'E' || p.has 'r') (p.has 'S') pieces with
        | .error e => fault "sed" e.message e.status
        | .ok script =>
          let files := if implied then p.operands.drop 1 else p.operands
          let width := match p.value? 'l' with
            | some s => (String.toNat? s).getD 0
            | none => 70
          let m : Editor.Manner := ⟨script.place, p.has 'n' || script.quiet, if p.has 'z' then '\x00' else '\n',
            p.has 's' || p.has 'i', p.value? 'i', width⟩
          if p.has 'i' && files.isEmpty then fault "sed" "no input files" 4
          else Editor.edit run m script.steps (if files.isEmpty then ["-"] else files)

end Stepwise.Shell.Tools
