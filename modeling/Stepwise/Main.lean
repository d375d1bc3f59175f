import Stepwise.Json.Reader
import Stepwise.Program
import Stepwise.Rehearsal.Stage

/-!
The program as a rehearsal on the command line: the replies of the completion provider come from a
file with one JSON text on each line, commands and files live in memory, and what would be shown is
shown at the end.
-/

open Stepwise

namespace Stepwise.Main

/-- The variable that names the file of replies. -/
def repliesVariable : String := "STEPWISE_REPLIES"

/-- The variables that settings may come from. -/
def variableNames : List String :=
  let plain := Settings.standard.toMembers.map (·.1)
  let nested := ["ai", "ai__type", "ai__base_url", "ai__model", "ai__api_key", "ai__temperature",
    "ai__max_tokens", "ai__stream"]
  (plain ++ nested).map fun name => Text.uppered (Settings.opening ++ name)

/-- The replies in the lines of a file; a line that is no JSON text is a reply as it stands. -/
def replies (s : String) : List (Except Fault String) :=
  ((Text.splitAt '\n' s.toList).map String.ofList).filter (!·.isEmpty) |>.map fun line =>
    match Json.parse line with
    | .ok (.text reply) => .ok reply
    | _ => .ok line

/-- Where the rehearsal takes place, with the variables that are set. -/
def site (environment : List (String × String)) : Site where
  directory := Path.ofText "/work"
  home := Path.ofText "/root"
  homes := [("root", Path.ofText "/root")]
  system := "linux"
  environment := environment

/-- The stage for some replies. -/
def stage (given : List (Except Fault String)) : Rehearsal.Stage where
  replies := given
  commands := []
  files := Rehearsal.Stage.furnished (site []) [Path.ofText "/root", Path.ofText "/tmp"] []

/-- The variables that are set. -/
def environment : IO (List (String × String)) := do
  let values ← variableNames.mapM fun name => do return (name, ← IO.getEnv name)
  return values.filterMap fun v => v.2.map fun value => (v.1, value)

/-- The lines of the standard input. -/
partial def inputLines (input : IO.FS.Stream) : IO (List String) := do
  let line ← input.getLine
  if line.isEmpty then return []
  return (line.dropEndWhile (· == '\n')).toString :: (← inputLines input)

/-- Runs an invocation, and shows what it wrote. -/
def perform (i : Invocation) : IO UInt32 := do
  let given ← match ← IO.getEnv repliesVariable with
    | some file => IO.FS.readFile file
    | none => pure ""
  let interactive := i.interactive || i.request?.isNone
  let lines ← if interactive && !i.listCapabilities then inputLines (← IO.getStdin) else pure []
  let place := site (("HOME", "/root") :: (← environment))
  let around : Surroundings Rehearsal.Stage :=
    { site := place, lines, library := ⟨[], []⟩, host := Rehearsal.Stage.liveHost place }
  let stamp : Journal.Stamp := ⟨"", "", 0, ""⟩
  let r := (Program.run around stamp i).run (.fresh (stage (replies given)))
  IO.print (String.join (r.log.map Console.output))
  match r.result with
  | .ok ⟨code, journal⟩ =>
    let j := journal.getD ⟨.simple, some .warning, none⟩
    IO.eprint (String.join (r.log.map (Console.errors j stamp)))
    match code with
    | .ok n => return n.toUInt32
    | .error f =>
      IO.eprintln f.message
      return 1
  | .error f =>
    IO.eprintln f.message
    return 1

end Stepwise.Main

/-- Reads the command line and does what it asks for. -/
def main (args : List String) : IO UInt32 := do
  match CommandLine.parse args with
  | .error e =>
    IO.eprint (CommandLine.complaint e)
    return 2
  | .ok i =>
    if i.help then
      IO.print CommandLine.usage
      return 0
    else Stepwise.Main.perform i
