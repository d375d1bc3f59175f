import Stepwise.Shell.Condition
import Stepwise.Shell.Tools.Basic

/-!
Programs that make, remove and rearrange files: `mkdir`, `rmdir`, `rm`, `mv`, `cp`, `ln` and
`chmod`.
-/

namespace Stepwise.Shell.Tools

open Run

/-- What stands at a path that an argument spells; an argument that ends with a slash has to be a
directory. -/
def nodeAt (follow : Bool) (a : String) : Run (Except Fault Node) := do
  let p ← locate a
  if a.isEmpty then pure (.error (.system ⟨.noEntry, []⟩))
  else
    let slashed := a.toList.getLast? == some '/'
    match ← ask fun t => t.status (follow || slashed) p with
    | .ok n => pure (if slashed && n != .directory then .error (.system ⟨.notDirectory, []⟩) else .ok n)
    | .error e => pure (.error e)

/-- Whether an argument spells a directory. -/
def isDirectory (a : String) : Run Bool := do
  match ← nodeAt true a with
  | .ok .directory => pure true
  | _ => pure false

/-- The place of what an argument spells, links being followed if that is asked for. -/
def placeOf (follow : Bool) (a : String) : Run (Option Place) := do
  let p ← locate a
  return ((← ask fun t => t.spot follow p).toOption).map (·.place)

/-- An argument without the slashes at its end. -/
def unslash (a : String) : String :=
  match a.toList.reverse.dropWhile (· == '/') with
  | [] => if a.isEmpty then "" else "/"
  | cs => String.ofList cs.reverse

/-- The last name in an argument. -/
def lastName (a : String) : String :=
  String.ofList (((unslash a).toList.reverse.takeWhile (· != '/')).reverse)

/-- A name in a directory. -/
def inDirectory (dir name : String) : String :=
  if dir.toList.getLast? == some '/' then dir ++ name else dir ++ "/" ++ name

/-- Complains that operands are missing. -/
def missingOperand (tool : String) : Run Nat := fault tool ("missing operand" ++ hint tool) 1

def mkdir (args : List String) : Run Nat :=
  let known := lettered "pvm:Z".toList ++
    worded [("parents", 'p', false), ("verbose", 'v', false), ("mode", 'm', true)]
  withOptions "mkdir" 1 known false args fun p => do
    let told := fun (a : String) =>
      if p.has 'v' then write 1 ("mkdir: created directory " ++ quoted a ++ "\n") else pure ()
    let refused := fun (a : String) (e : Fault) =>
      fault "mkdir" ("cannot create directory " ++ named a ++ ": " ++ reason e) 1
    let make := fun (a : String) => do
      let path ← locate a
      if a.isEmpty then pure (some (.system ⟨.noEntry, []⟩)) else edit fun t => t.makeDirectory path
    if p.operands.isEmpty then missingOperand "mkdir"
    else forEach (fun a => do
      if p.has 'p' then
        let cs := (unslash a).toList
        let ends := ((List.range cs.length).filter fun i => cs[i + 1]? == some '/' && cs[i]? != some '/')
        let steps := (ends.map fun i => String.ofList (cs.take (i + 1))) ++ [unslash a]
        steps.foldlM (fun status s => do
          if status ≠ 0 then pure status
          else if ← isDirectory s then pure 0
          else
            match ← make s with
            | none =>
              told s
              pure 0
            | some e => refused s (match e with
              | .system ⟨.exists, _⟩ => if s = unslash a then e else .system ⟨.notDirectory, []⟩
              | e => e)) 0
      else
        match ← make a with
        | none =>
          told a
          pure 0
        | some e => refused a e) p.operands

def rmdir (args : List String) : Run Nat :=
  let known := lettered "pv".toList ++
    worded [("parents", 'p', false), ("verbose", 'v', false), ("ignore-fail-on-non-empty", 'i', false)]
  withOptions "rmdir" 1 known false args fun p => do
    let remove := fun (a : String) => do
      if p.has 'v' then write 1 ("rmdir: removing directory, " ++ quoted a ++ "\n")
      let path ← locate a
      match ← edit fun t => t.removeDirectory path with
      | none => pure 0
      | some e =>
        if p.has 'i' && reason e = Errno.notEmpty.text then pure 0
        else fault "rmdir" ("failed to remove " ++ quoted a ++ ": " ++ reason e) 1
    if p.operands.isEmpty then missingOperand "rmdir"
    else forEach (fun a => do
      let status ← remove a
      if p.has 'p' && status = 0 then
        let parts := Text.splitAt '/' (unslash a).toList
        let above := ((List.range parts.length).reverse.filter (0 < ·)).map fun n =>
          String.ofList (Text.join ['/'] (parts.take n))
        above.foldlM (fun status s => if status = 0 && !s.isEmpty then remove s else pure status) 0
      else pure status) p.operands

/-- Removes what is in a directory, and the directory, telling each of them. -/
def removeWhole (told : Bool → String → Run Unit) : Nat → String → Run (Option Fault)
  | 0, _ => pure none
  | n + 1, a => do
    let path ← locate a
    match ← ask fun t => t.status false path with
    | .ok .directory =>
      let names := ((← ask fun t => t.list path).toOption.getD []).mergeSort fun a b => decide (a ≤ b)
      let failed ← names.findSomeM? fun name => removeWhole told n (inDirectory a (spelled name))
      match failed with
      | some e => pure (some e)
      | none =>
        match ← edit fun t => t.removeDirectory path with
        | none =>
          told true a
          pure none
        | some e => pure (some e)
    | _ =>
      match ← edit fun t => t.removeFile path with
      | none =>
        told false a
        pure none
      | some e => pure (some e)

/-- The most levels of directories that are gone through. -/
def deepest : Nat := 2000

def rm (args : List String) : Run Nat :=
  let known := lettered "rRfdviI".toList ++
    worded [("recursive", 'r', false), ("force", 'f', false), ("dir", 'd', false), ("verbose", 'v', false)]
  withOptions "rm" 1 known false args fun p => do
    let deep := p.has 'r' || p.has 'R'
    let told := fun (directory : Bool) (a : String) =>
      if p.has 'v' then write 1 ("removed " ++ (if directory then "directory " else "") ++ quoted a ++ "\n")
      else pure ()
    let refused := fun (a : String) (e : Fault) => fault "rm" ("cannot remove " ++ quoted a ++ ": " ++ reason e) 1
    if p.operands.isEmpty then if p.has 'f' then pure 0 else missingOperand "rm"
    else forEach (fun a => do
      let path ← locate a
      match ← nodeAt false a with
      | .error e =>
        if p.has 'f' && (reason e = Errno.noEntry.text || reason e = Errno.notDirectory.text) then pure 0
        else refused a e
      | .ok .directory =>
        if !deep && !p.has 'd' then refused a (.system ⟨.isDirectory, []⟩)
        else if [".", ".."].contains (lastName a) then
          fault "rm" ("refusing to remove '.' or '..' directory: skipping " ++ quoted a) 1
        else if unslash a = "/" then
          fault "rm" ("it is dangerous to operate recursively on '/'\nrm: use --no-preserve-root to override this failsafe") 1
        else
          let failed ← if deep then removeWhole told deepest a
            else do
              let r ← edit fun t => t.removeDirectory path
              if r.isNone then told true a
              pure r
          match failed with
          | none => pure 0
          | some e => refused a e
      | .ok _ =>
        untwin ((← placeOf false a).getD [])
        match ← edit fun t => t.removeFile path with
        | none =>
          told false a
          pure 0
        | some e => refused a e) p.operands

/-- The operands of a program that puts files in other places: each with its goal. -/
def goals (tool : String) (p : Parsed) (f : List (String × String) → Run Nat) : Run Nat := do
  let into := fun (dir : String) (files : List String) =>
    f (files.map fun a => (a, inDirectory dir (lastName a)))
  match p.value? 't', p.operands with
  | some _, [] => fault tool ("missing file operand" ++ hint tool) 1
  | some dir, files =>
    match ← nodeAt true dir with
    | .ok .directory => into dir files
    | .ok _ => fault tool ("target directory " ++ quoted dir ++ ": Not a directory") 1
    | .error e => fault tool ("target directory " ++ quoted dir ++ ": " ++ reason e) 1
  | none, [] => fault tool ("missing file operand" ++ hint tool) 1
  | none, [a] => fault tool ("missing destination file operand after " ++ quoted a ++ hint tool) 1
  | none, files =>
    let last := files.getLastD ""
    let sources := files.dropLast
    if p.has 'T' then
      if 2 < files.length then fault tool ("extra operand " ++ quoted (files.getD 2 "") ++ hint tool) 1
      else f [(files.headD "", last)]
    else if ← isDirectory last then into last sources
    else if sources.length = 1 then f [(sources.headD "", last)]
    else
      match ← nodeAt true last with
      | .ok _ => fault tool ("target " ++ quoted last ++ ": Not a directory") 1
      | .error e => fault tool ("target " ++ quoted last ++ ": " ++ reason e) 1

/-- Takes the permission to be carried out along from one place to another. -/
def carryAlong (old new : Place) : Run Unit :=
  modify fun m =>
    let others := m.programs.filter (·.parts != new)
    { m with programs := if m.programs.any (·.parts == old) then ⟨"/", new⟩ :: others else others }

/-- Takes what is known of the changes of files along when they are moved. -/
def moveAlong (old new : Place) : Run Unit := do
  untwin new
  let moved := fun (p : Place) => if old.isPrefixOf p then new ++ p.drop old.length else p
  modify fun m =>
    { m with
      stamps := (m.stamps.filter (·.1 != new)).map fun s => (moved s.1, s.2)
      twins := m.twins.map (·.map moved) }

/-- What must not happen to a goal: it is the thing itself, lies in it, or is of another kind. -/
def objection (verb a b : String) (node : Node) : Run (Option String) := do
  let old ← placeOf (verb == "copy") a
  let new ← placeOf (verb == "copy") b
  let goal := (← nodeAt (verb == "copy") b).toOption
  let led ← placeOf true a
  let twins ← twinsOf (old.getD [])
  let same := old == new || (match node with
    | .link _ => led == new
    | _ => twins.any fun x => some x == new)
  pure <|
    if same && !(node == .directory) then some (quoted a ++ " and " ++ quoted b ++ " are the same file")
    else if node == .directory && old.any fun x => new.any fun y => x.isPrefixOf y then
      some (if verb = "copy" then "cannot copy a directory, " ++ quoted a ++ ", into itself, " ++ quoted b
        else "cannot move " ++ quoted a ++ " to a subdirectory of itself, " ++ quoted b)
    else
      match goal with
      | some .directory =>
        if node == .directory then none
        else some ("cannot overwrite directory " ++ quoted b ++ " with non-directory")
      | some _ =>
        if node == .directory then some ("cannot overwrite non-directory " ++ quoted b ++ " with directory " ++ quoted a)
        else none
      | none => none

def mv (args : List String) : Run Nat :=
  let known := lettered "finvuTt:".toList ++
    worded [("force", 'f', false), ("no-clobber", 'n', false), ("verbose", 'v', false),
      ("target-directory", 't', true), ("no-target-directory", 'T', false)]
  withOptions "mv" 1 known false args fun p =>
    goals "mv" p fun pairs => pairs.foldlM (fun status (a, b) => do
      match ← nodeAt false a with
      | .error e => return max status (← fault "mv" ("cannot stat " ++ quoted a ++ ": " ++ reason e) 1)
      | .ok node =>
        if p.has 'n' && (← nodeAt false b).isOk then pure status
        else
          match ← objection "move" a b node with
          | some s => return max status (← fault "mv" s 1)
          | none =>
            let from_ ← placeOf false a
            let old ← locate a
            let new ← locate (unslash b)
            match ← (if b.isEmpty then pure (some (.system ⟨.noEntry, []⟩)) else edit fun t => t.rename old new) with
            | none =>
              if p.has 'v' then write 1 ("renamed " ++ quoted a ++ " -> " ++ quoted b ++ "\n")
              carryAlong (from_.getD []) ((← placeOf false b).getD [])
              moveAlong (from_.getD []) ((← placeOf false b).getD [])
              pure status
            | some e =>
              return max status (← fault "mv" ("cannot move " ++ quoted a ++ " to " ++ quoted b ++ ": " ++ reason e) 1)) 0

/-- Copies what stands at a path. -/
def copyWhole (told : String → String → Run Unit) (keepLinks deep keepTimes : Bool) : Nat → String → String → Run Nat
  | 0, _, _ => pure 1
  | n + 1, a, b => do
    let refused := fun (e : Fault) =>
      fault "cp" ("cannot create regular file " ++ quoted b ++ ": " ++ reason e) 1
    let new ← locate b
    let finish := fun (failed : Option Fault) => do
      match failed with
      | none =>
        told a b
        let old := (← placeOf true a).getD []
        let place := (← placeOf true b).getD []
        carryAlong old place
        if keepTimes then stamp place (← timeAt old)
        pure 0
      | some e => refused e
    match ← nodeAt (!keepLinks) a with
    | .error e => fault "cp" ("cannot stat " ++ quoted a ++ ": " ++ reason e) 1
    | .ok .directory =>
      if !deep then fault "cp" ("-r not specified; omitting directory " ++ quoted a) 1
      else
        let isThere ← isDirectory b
        let failed ← if isThere then pure none else edit fun t => t.makeDirectory new
        match failed with
        | some e => fault "cp" ("cannot create directory " ++ quoted b ++ ": " ++ reason e) 1
        | none =>
          if !isThere then told a b
          let path ← locate a
          let names := ((← ask fun t => t.list path).toOption.getD []).mergeSort fun a b => decide (a ≤ b)
          (names.map spelled).foldlM (fun status name => do
            let x := inDirectory a name
            let y := inDirectory b name
            match (← nodeAt false x).toOption with
            | none => pure status
            | some node =>
              match ← objection "copy" x y node with
              | some s => return max status (← fault "cp" s 1)
              | none => return max status (← copyWhole told keepLinks deep keepTimes n x y)) 0
    | .ok (.file bs) =>
      if b.isEmpty || b.toList.getLast? == some '/' then refused (.system ⟨if b.isEmpty then .noEntry else .notDirectory, []⟩)
      else finish (← store new fun _ => bs)
    | .ok (.link target) =>
      let _ ← edit fun t => t.removeFile new
      finish (← edit fun t => t.makeLink target new)

def cp (args : List String) : Run Nat :=
  let known := lettered "rRafinpvudPLHTt:".toList ++
    worded [("recursive", 'r', false), ("archive", 'a', false), ("force", 'f', false),
      ("no-clobber", 'n', false), ("verbose", 'v', false), ("target-directory", 't', true),
      ("no-target-directory", 'T', false)]
  withOptions "cp" 1 known false args fun p =>
    let deep := p.has 'r' || p.has 'R' || p.has 'a'
    let keepLinks := (deep || p.has 'P' || p.has 'd') && !p.has 'L'
    let told := fun (a b : String) =>
      if p.has 'v' then write 1 (quoted a ++ " -> " ++ quoted b ++ "\n") else pure ()
    goals "cp" p fun pairs => pairs.foldlM (fun status (a, b) => do
      match ← nodeAt (!keepLinks) a with
      | .error e =>
        match device? (← locate a) with
        | some _ =>
          let goal ← locate b
          let _ ← store goal fun _ => []
          pure status
        | none => return max status (← fault "cp" ("cannot stat " ++ quoted a ++ ": " ++ reason e) 1)
      | .ok node =>
        if node == .directory && !deep then
          return max status (← fault "cp" ("-r not specified; omitting directory " ++ quoted a) 1)
        else if p.has 'n' && (← nodeAt true b).isOk then pure status
        else
          match ← objection "copy" a b node with
          | some s => return max status (← fault "cp" s 1)
          | none => return max status (← copyWhole told keepLinks deep (p.has 'p' || p.has 'a') deepest a b)) 0

def ln (args : List String) : Run Nat :=
  let known := lettered "sfnvTrt:".toList ++
    worded [("symbolic", 's', false), ("force", 'f', false), ("no-dereference", 'n', false),
      ("verbose", 'v', false), ("target-directory", 't', true), ("no-target-directory", 'T', false)]
  withOptions "ln" 1 known false args fun p => do
    let symbolic := p.has 's'
    let q := match p.operands with
      | [a] => if (p.value? 't').isNone then { p with operands := [a, "."] } else p
      | _ => p
    let keep := p.has 'n' && q.operands.length = 2
    let goal := q.operands.getLastD ""
    let isLink := match ← nodeAt false goal with
      | .ok (.link _) => true
      | _ => false
    goals "ln" (if keep && isLink then { q with options := ('T', "") :: q.options } else q) fun pairs =>
      pairs.foldlM (fun status (a, b) => do
        let new ← locate b
        let refused := fun (e : Fault) =>
          fault "ln" ("failed to create " ++ (if symbolic then "symbolic" else "hard") ++ " link " ++ quoted b ++
            (if symbolic || (reason e == Errno.exists.text) then "" else " => " ++ quoted a) ++ ": " ++ reason e) 1
        let b := if "./".toList.isPrefixOf b.toList && p.operands.length = 1 then
            "./" ++ String.ofList (b.toList.drop 2) else b
        let made ← if symbolic then do
            if p.has 'f' then
              let _ ← edit fun t => t.removeFile new
            let r ← edit fun t => t.makeLink (textOf (bytes a)) new
            match r with
            | none => pure 0
            | some e => refused e
          else
            match ← nodeAt false a with
            | .error e => fault "ln" ("failed to access " ++ quoted a ++ ": " ++ reason e) 1
            | .ok .directory => fault "ln" (a ++ ": hard link not allowed for directory") 1
            | .ok (.file bs) =>
              if (← nodeAt false b).isOk && !p.has 'f' then refused (.system ⟨.exists, []⟩)
              else
                match ← store new fun _ => bs with
                | none =>
                  let old := (← placeOf false a).getD []
                  let place := (← placeOf false b).getD []
                  twin old place
                  stamp place (← timeAt old)
                  pure 0
                | some e => refused e
            | .ok (.link target) =>
              match ← edit fun t => t.makeLink target new with
              | none => pure 0
              | some e => refused e
        if made = 0 && p.has 'v' then
          write 1 (quoted b ++ (if symbolic then " -> " else " => ") ++ quoted a ++ "\n")
        pure (max status made)) 0

/-- The permissions that a clause such as `u+x` gives or takes, none if it is malformed: whether the
permission to be carried out is given, taken, or left as it is. -/
def executable? (mode : String) : Option (Option Bool) :=
  let cs := mode.toList
  if !cs.isEmpty && cs.all Char.isDigit then
    let v := octal 5 0 cs
    if v.2.isEmpty && cs.length ≤ 4 then some (some (cs.any fun c => (c.toNat - 48) % 2 = 1)) else none
  else
    (Text.splitAt ',' cs).foldlM (fun known clause =>
      let rest := clause.dropWhile fun c => "ugoa".toList.contains c
      match rest with
      | sign :: rights =>
        if !"+-=".toList.contains sign || !rights.all fun c => "rwxXstugo+-=".toList.contains c then none
        else
          let runs := rights.contains 'x'
          some (if sign = '+' then (if runs then some true else known)
            else if sign = '-' then (if runs then some false else known)
            else some runs)
      | [] => none) none

/-- Notes whether a file may be carried out as a program. -/
def setExecutable (a : String) (allowed : Bool) : Run Unit := do
  let place := (← placeOf true a).getD []
  modify fun m =>
    let others := m.programs.filter (·.parts != place)
    { m with programs := if allowed then ⟨"/", place⟩ :: others else others }

/-- Does something with what stands at a path and with all that is below it. -/
def throughout (f : String → Run Unit) : Nat → String → Run Unit
  | 0, _ => pure ()
  | n + 1, a => do
    f a
    match ← nodeAt false a with
    | .ok .directory =>
      let path ← locate a
      let names := ((← ask fun t => t.list path).toOption.getD []).mergeSort fun a b => decide (a ≤ b)
      names.forM fun name => throughout f n (inDirectory a (spelled name))
    | _ => pure ()

def chmod (args : List String) : Run Nat := do
  let isMode := fun (a : String) => 1 < a.length && a.toList.head? == some '-' &&
    a.toList.tail.all fun c => "rwxXst,+-=ugo".toList.contains c
  let (before, given) := (args.takeWhile (!isMode ·), args.dropWhile (!isMode ·))
  let args := match given with
    | mode :: rest => before ++ "--" :: mode :: rest
    | [] => args
  let known := lettered "Rvcf".toList ++
    worded [("recursive", 'R', false), ("verbose", 'v', false), ("quiet", 'f', false), ("silent", 'f', false)]
  withOptions "chmod" 1 known false args fun p => do
    match p.operands with
    | [] => missingOperand "chmod"
    | [a] => fault "chmod" ("missing operand after " ++ named a ++ hint "chmod") 1
    | mode :: files =>
      match executable? mode with
      | none => fault "chmod" ("invalid mode: " ++ named mode ++ hint "chmod") 1
      | some change =>
        forEach (fun a => do
          match ← nodeAt true a with
          | .error e =>
            if p.has 'f' then pure 1 else fault "chmod" ("cannot access " ++ quoted a ++ ": " ++ reason e) 1
          | .ok _ =>
            let set := fun a => match change with
              | some allowed => setExecutable a allowed
              | none => pure ()
            if p.has 'R' then throughout set deepest a else set a
            pure 0) files

end Stepwise.Shell.Tools
