import Stepwise.Shell.Runner

/-!
A stage on which runs are rehearsed: the replies of the completion provider and the results of
commands are given beforehand, and files are kept in memory.
-/

namespace Stepwise.Rehearsal

/-- What is given beforehand, and the files as they are. -/
structure Stage where
  replies : List (Except Fault String)
  commands : List (String × CommandResult)
  files : FileTree

namespace Stage

/-- The next reply. -/
def complete (_ : List Message) : Act Deed Stage String := fun s =>
  match s.replies with
  | [] => ⟨.error (.general .assertion "no scripted reply left"), s, []⟩
  | r :: rest => ⟨r, { s with replies := rest }, []⟩

/-- The given result of a command; an unknown command is not found. -/
def command (_ : Double) (text : String) : Act Deed Stage CommandResult := fun s =>
  let result := match s.commands.find? (·.1 == text) with
    | some c => c.2
    | none => ⟨false, text, some 127, "", "not found\n", none⟩
  ⟨.ok result, s, []⟩

/-- A tree with the working directory, other directories, and files with texts. -/
def furnished (site : Site) (directories : List Path) (files : List (String × String)) : FileTree :=
  let work : Files.FileAct Unit := do
    Files.makeAll site.directory
    for d in directories do Files.makeAll d
    for f in files do
      let p := site.directory ++ Path.ofText f.1
      Files.makeAll p.parent
      Files.writeText (.text "utf-8") p f.2
  (work.run ⟨[]⟩).world

/-- The collaborators on the stage; running code is left to who equips the engine. -/
def host : Host Stage where
  complete := complete
  command := command
  execute _ _ := Act.fail .tooDeep
  files := (·.files)
  putFiles t s := { s with files := t }

/-- The collaborators on the stage with commands that are carried out on its files. -/
def liveHost (site : Site) : Host Stage :=
  { host with
    command := fun seconds text =>
      Act.zoom (·.files) (fun t s => { s with files := t })
        (Shell.execute site "" (.ofSeconds seconds) text) }

end Stage

end Stepwise.Rehearsal
