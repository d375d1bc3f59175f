import Stepwise.Deed
import Stepwise.FileTree.Calls
import Stepwise.Text.Encoding
import Stepwise.Value.Display

/-!
The file capabilities. Each takes its paths relative to the working directory; errors of the file
system become an answer of no and a warning in the journal, and only other faults are passed on.
Text is written as it is and read with all line ends as line feeds.
-/

namespace Stepwise

/-- Where the program runs, and the variables it finds there. -/
structure Site where
  directory : Path
  home : Path
  homes : List (String × Path)
  system : String
  environment : List (String × String)
  deriving Repr

namespace Files

/-- Work on a tree of files. -/
abbrev FileAct := Act Deed FileTree

/-- A question to the tree. -/
def ask {α : Type} (f : FileTree → Except Fault α) : FileAct α := fun t => ⟨f t, t, []⟩

/-- A change of the tree, which stays as it was if the change is refused. -/
def edit (f : FileTree → Except Fault FileTree) : FileAct Unit := fun t =>
  match f t with
  | .ok t' => ⟨.ok (), t', []⟩
  | .error e => ⟨.error e, t, []⟩

/-- A path with a leading tilde replaced by the directory of a user. -/
def expandHome (site : Site) (p : Path) : Except Fault Path :=
  match p.root, p.parts with
  | "", first :: rest =>
    match first.toList with
    | '~' :: user =>
      let home := if user.isEmpty then some site.home
        else (site.homes.find? (·.1.toList == user)).map (·.2)
      match home with
      | some h => .ok (h ++ Path.mk "" rest)
      | none => .error (.general .runtime "Could not determine home directory.")
    | _ => .ok p
  | _, _ => .ok p

/-- The path that an argument means. -/
def resolve (site : Site) (arg : Value) : FileAct Path := do
  if ← ask (fun t => t.isDirectory site.directory) then
    match expandHome site (Path.ofText arg.display) with
    | .ok p => pure (site.directory ++ p)
    | .error f => Act.fail f
  else Act.fail (.system ⟨.noEntry, []⟩)

/-- An error of the file system as an answer, with a warning. -/
def guarded (name : String) (subject : List Value) (answer : Value) (m : FileAct Value) :
    FileAct Value := do
  match ← m.attempt with
  | .ok v => pure v
  | .error f =>
    if f.isSystem then
      Act.say (.diagnostic .warning .toolbox (name ++ " failed for " ++
        Text.joinText " -> " (subject.map Value.display) ++ ": " ++ f.message))
      pure answer
    else Act.fail f

/-- A directory that is there already is as good as a new one. -/
def settle (p : Path) (f : Fault) : FileAct Unit := do
  if f.isSystem then
    if ← ask (fun t => t.isDirectory p) then pure () else Act.fail f
  else Act.fail f

/-- Makes a directory; if the one above it is missing, `above` makes that first. -/
def makeAfter (p : Path) (above : Option (FileAct Unit)) : FileAct Unit := do
  match ← (edit fun t => t.makeDirectory p).attempt, above with
  | .ok (), _ => pure ()
  | .error (.system ⟨.noEntry, _⟩), some make =>
    make
    match ← (edit fun t => t.makeDirectory p).attempt with
    | .ok () => pure ()
    | .error f => settle p f
  | .error (.system ⟨.noEntry, paths⟩), none => Act.fail (.system ⟨.noEntry, paths⟩)
  | .error f, _ => settle p f

/-- Makes a directory, and at most `n` directories above it that are missing. -/
def makeDirectories : Nat → Path → FileAct Unit
  | 0, p => makeAfter p none
  | n + 1, p => makeAfter p (some (makeDirectories n p.parent))

/-- Makes a directory and all that are missing above it. -/
def makeAll (p : Path) : FileAct Unit := makeDirectories p.parts.length p

/-- The name of an encoding that a value gives; nothing gives that of the system. -/
def encodingName : Value → Except Fault String
  | .text s =>
    if s.toList.contains (Char.ofNat 0) then .error (.general .value "embedded null character") else .ok s
  | .null => .ok "locale"
  | v => .error (.general .type ("open() argument 'encoding' must be str or None, not " ++ v.kindName))

/-- The encoding of a name. -/
def encodingOf (name : String) : Except Fault Text.Encoding :=
  match Text.Encoding.ofName? name with
  | some e => .ok e
  | none =>
    if Text.Encoding.isTransform name then
      .error (.general .lookup ("'" ++ (name.take 400).toString ++
        "' is not a text encoding; use codecs.open() to handle arbitrary codecs"))
    else .error (.general .lookup ("unknown encoding: " ++ name))

/-- The fault of a text or of bytes that an encoding refuses. -/
def codingFault : Text.CodingError → Fault
  | .unencodable s => .general .encoding s
  | .undecodable s => .undecodable s
  | .general s => .general .decoding s

/-- Replaces the text of a file. The file is emptied before the text is encoded. -/
def writeText (encoding : Value) (p : Path) (s : String) : FileAct Unit := do
  let name ← Act.ofExcept (encodingName encoding)
  edit fun t => t.writeFile p fun _ => []
  let e ← Act.ofExcept (encodingOf name)
  let bytes ← Act.ofExcept ((e.encode true s.toList).mapError codingFault)
  edit fun t => t.writeFile p fun _ => bytes

/-- Adds text at the end of a file. -/
def appendText (encoding : Value) (p : Path) (s : String) : FileAct Unit := do
  let name ← Act.ofExcept (encodingName encoding)
  edit fun t => t.writeFile p id
  let e ← Act.ofExcept (encodingOf name)
  let old ← ask fun t => t.readFile p
  let bytes ← Act.ofExcept ((e.encode old.isEmpty s.toList).mapError codingFault)
  edit fun t => t.writeFile p fun before => before ++ bytes

/-- The text of a file. -/
def readText (encoding : Value) (p : Path) : FileAct String := do
  let name ← Act.ofExcept (encodingName encoding)
  let bytes ← ask fun t => t.readFile p
  let e ← Act.ofExcept (encodingOf name)
  let cs ← Act.ofExcept ((e.decode bytes).mapError codingFault)
  pure (String.ofList (Text.unifyLineEnds cs))

/-- Removes a directory with all that is in it; links are refused. -/
def removeTree (p : Path) : FileAct Unit := do
  match ← ask (fun t => t.status false p) with
  | .link _ => Act.fail (.general .system "Cannot call rmtree on a symbolic link")
  | .file _ =>
    Act.fail (.general .system ("[Errno 20] Not a directory: PosixPath(" ++ Text.quoted p.text ++ ")"))
  | .directory =>
    edit fun t => (t.spot false p).map fun s => t.eraseInside s.place
    edit fun t => t.removeDirectory p

/-- Removes one entry of a directory, whatever it is. It is looked at along links first, so a link that leads along
a name that is too long is not removed. -/
def removeEntry (p : Path) : FileAct Unit := do
  if ← ask (fun t => t.isDirectory p) then
    match ← ask (fun t => t.status false p) with
    | .link _ => edit fun t => t.removeFile p
    | _ => removeTree p
  else edit fun t => t.removeFile p

/-- Removes entries of a directory one after the other. -/
def removeEntries (p : Path) : List String → FileAct Unit
  | [] => pure ()
  | name :: rest => do
    removeEntry (p.child name)
    removeEntries p rest

/-- Whether a question was answered with yes. -/
def holds : Except Fault Bool → Bool
  | .ok b => b
  | .error _ => false

/-- Whether two paths lead to the same place. -/
def samePlace (t : FileTree) (p q : Path) : Bool :=
  match t.spot true p, t.spot true q with
  | .ok a, .ok b => a.place == b.place && a.node.isSome
  | _, _ => false

/-- Moves a node that could not be renamed. A directory that was to go into itself along a link is
copied there, and then removed together with the copy. -/
def moveOtherwise (source destination goal : Path) (f : Fault) : FileAct Unit := do
  match ← ask (fun t => t.status false source) with
  | .link target =>
    edit fun t => t.makeLink target goal
    edit fun t => t.removeFile source
  | .directory =>
    if destination.isWithin source then
      Act.fail (.general .system ("Cannot move a directory '" ++ source.text ++ "' into itself '" ++
        destination.text ++ "'."))
    else
      match f with
      | .system ⟨.invalid, _⟩ => removeTree source
      | .system ⟨.notDirectory, _⟩ => Act.fail (.system ⟨.exists, [goal.text]⟩)
      | .system ⟨e, _⟩ => Act.fail (.system ⟨e, [goal.text]⟩)
      | f => Act.fail f
  | .file _ =>
    match f with
    | .system ⟨e, _⟩ => Act.fail (.system ⟨e, [goal.text]⟩)
    | f => Act.fail f

/-- Moves a node to a path, or into the directory there. -/
def moveNode (source destination : Path) : FileAct Unit := do
  let t ← Act.world
  if holds (t.isDirectory destination) then
    if samePlace t source destination then edit fun t => t.rename source destination
    else
      let goal := destination.child source.name
      if holds (t.present goal) then
        Act.fail (.general .system ("Destination path '" ++ goal.text ++ "' already exists"))
      else toGoal goal
  else toGoal destination
where
  /-- Renames, or moves in another way. -/
  toGoal (goal : Path) : FileAct Unit := do
    match ← (edit fun t => t.rename source goal).attempt with
    | .ok () => pure ()
    | .error f => if f.isSystem then moveOtherwise source destination goal f else Act.fail f

/-- What is told about a node. -/
def information (p : Path) (n : Node) : Value :=
  let size : Value := match n with
    | .file bytes => .int bytes.length
    | _ => .handle "<size>"
  let isFile := match n with
    | .file _ => true
    | _ => false
  .object [("path", .text p.text), ("size", size), ("mtime", .handle "<datetime>"),
    ("ctime", .handle "<datetime>"), ("is_file", .bool isFile), ("is_directory", .bool (n == .directory))]

variable (site : Site) (encoding : Value)

/-- Makes a file with a text, and the directories above it. -/
def createFile (path content : Value) : FileAct Value :=
  guarded "create_file" [path] (.bool false) do
    let p ← resolve site path
    makeAll p.parent
    writeText encoding p content.display
    pure (.bool true)

/-- Makes a directory, and those above it. -/
def createDirectory (path : Value) : FileAct Value :=
  guarded "create_directory" [path] (.bool false) do
    let p ← resolve site path
    makeAll p
    pure (.bool true)

/-- Replaces the text of what is there. -/
def modifyFile (path content : Value) : FileAct Value := do
  let p ← resolve site path
  if ← ask (fun t => t.present p) then
    guarded "modify_file" [path] (.bool false) do
      writeText encoding p content.display
      pure (.bool true)
  else pure (.bool false)

/-- The text of a file, if there is one that can be read. -/
def readFile (path : Value) : FileAct Value := do
  let p ← resolve site path
  if ← ask (fun t => t.present p) then
    match ← (readText encoding p).attempt with
    | .ok s => pure (.text s)
    | .error (.undecodable s) =>
      guarded "read_file" [path] .null (Act.fail (.general .system s))
    | .error f => guarded "read_file" [path] .null (Act.fail f)
  else pure .null

/-- Adds text at the end of what is there. -/
def appendToFile (path content : Value) : FileAct Value := do
  let p ← resolve site path
  if ← ask (fun t => t.present p) then
    guarded "append_to_file" [path] (.bool false) do
      appendText encoding p content.display
      pure (.bool true)
  else pure (.bool false)

/-- Whether there is anything at a path. -/
def fileExists (path : Value) : FileAct Value := do
  let p ← resolve site path
  pure (.bool (← ask fun t => t.present p))

/-- Removes a file; none being there is as good. -/
def deleteFile (path : Value) : FileAct Value :=
  guarded "delete_file" [path] (.bool false) do
    let p ← resolve site path
    match ← (edit fun t => t.removeFile p).attempt with
    | .ok () => pure (.bool true)
    | .error (.system ⟨.noEntry, _⟩) => pure (.bool true)
    | .error f => Act.fail f

/-- Removes a directory with all that is in it; none being there is as good. -/
def deleteDirectory (path : Value) : FileAct Value := do
  let p ← resolve site path
  guarded "delete_directory" [path] (.bool false) do
    if ← ask (fun t => t.present p) then removeTree p
    pure (.bool true)

/-- Renames what is there. -/
def rename (old new : Value) : FileAct Value := do
  let p ← resolve site old
  guarded "rename" [old, new] (.bool false) do
    if ← ask (fun t => t.present p) then
      let q ← resolve site new
      edit fun t => t.rename p q
    pure (.bool true)

/-- Moves what is there, making the directories above the goal. -/
def moveFile (source destination : Value) : FileAct Value := do
  let p ← resolve site source
  let q ← resolve site destination
  guarded "move_file" [source, destination] (.bool false) do
    makeAll q.parent
    if ← ask (fun t => t.present p) then moveNode p q
    pure (.bool true)

/-- What is known of a path, if there is anything. -/
def getFileInfo (path : Value) : FileAct Value := do
  let p ← resolve site path
  match ← (ask fun t => t.status true p).attempt with
  | .ok n => pure (information p n)
  | .error f => if f.isSystem then pure .null else Act.fail f

/-- The names in a directory, in order. -/
def getFileNameList (path : Value) : FileAct Value := do
  let p ← resolve site path
  if ← ask (fun t => t.isDirectory p) then
    guarded "get_file_name_list" [path] (.list []) do
      let names ← ask fun t => t.list p
      pure (.list ((names.mergeSort fun a b => decide (a ≤ b)).map .text))
  else pure (.list [])

/-- Removes all that is in a directory. -/
def clearDirectory (path : Value) : FileAct Value := do
  let p ← resolve site path
  if ← ask (fun t => t.isDirectory p) then
    guarded "clear_directory" [path] (.bool false) do
      let names ← ask fun t => t.list p
      removeEntries p names
      pure (.bool true)
  else pure (.bool false)

end Files

end Stepwise
