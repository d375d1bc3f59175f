import Stepwise.Shell.Records.Evaluation
import Stepwise.Shell.Records.Reader
import Stepwise.Shell.Tools.System

/-!
Working on records by a script that is given or stands in files: `awk`.
-/

namespace Stepwise.Shell.Tools

open Run

namespace Harvest

/-- The options: the separator of fields, assignments, files with scripts, and the operands; or a complaint. -/
structure Choice where
  separator : Option String
  settings : List String
  files : List String
  operands : List String

/-- Reads options up to the first operand. -/
def read : List String → Choice → Except String Choice
  | [], c => .ok c
  | a :: rest, c =>
    match a.toList with
    | ['-', '-'] => .ok { c with operands := rest }
    | '-' :: letter :: value =>
      let take := fun (f : String → Choice) =>
        match value, rest with
        | _ :: _, rest => read rest (f (String.ofList value))
        | [], v :: rest => read rest (f v)
        | [], [] => .error ("option -" ++ String.singleton letter ++ " lacks argument")
      if letter = 'F' then take fun v => { c with separator := some v }
      else if letter = 'v' then take fun v => { c with settings := c.settings ++ [v] }
      else if letter = 'f' then take fun v => { c with files := c.files ++ [v] }
      else .error ("not an option: " ++ a)
    | _ => .ok { c with operands := a :: rest }

/-- How the program is used. -/
def usage : List String :=
  ["Usage: mawk [Options] [Program] [file ...]",
    "",
    "Program:",
    "    The -f option value is the name of a file containing program text.",
    "    If no -f option is given, a \"--\" ends option processing; the following",
    "    parameters are the program text.",
    "",
    "Options:",
    "    -f program-file  Program  text is read from file instead of from the",
    "                     command-line.  Multiple -f options are accepted.",
    "    -F value         sets the field separator, FS, to value.",
    "    -v var=value     assigns value to program variable var.",
    "    --               unambiguous end of options.",
    "",
    "    Implementation-specific options are prefixed with \"-W\".  They can be",
    "    abbreviated:",
    "",
    "    -W version       show version information and exit.",
    "    -W compat        pre-POSIX 2001.",
    "    -W dump          show assembler-like listing of program and exit.",
    "    -W help          show this message and exit.",
    "    -W interactive   set unbuffered output, line-buffered input.",
    "    -W exec file     use file as program as well as last option.",
    "    -W posix         stricter POSIX checking.",
    "    -W random=number set initial random seed.",
    "    -W sprintf=number adjust size of sprintf buffer.",
    "    -W usage         show this message and exit."]

end Harvest

def awk (run : Launcher) (args : List String) : Run Nat := do
  if args.isEmpty then
    write 2 (String.join (Harvest.usage.map (· ++ "\n")))
    return 0
  let refuse := fun (text : String) => fault "awk" text 2
  match Harvest.read args ⟨none, [], [], []⟩ with
  | .error e => refuse e
  | .ok c =>
    let settings := c.settings.map fun s => (s, Records.Work.assignment? s)
    match settings.find? (·.2.isNone) with
    | some (s, _) => refuse ("improper assignment: -v " ++ s)
    | none =>
      let texts ← c.files.mapM fun f => do return (f, ← contents f)
      match texts.findSome? fun (f, r) => match r with
        | .error e => some (f, e)
        | .ok _ => none with
      | some (f, e) => refuse ("cannot open \"" ++ f ++ "\" (" ++ reason e ++ ")")
      | none =>
        let script? := if c.files.isEmpty then c.operands.head?.map String.toList
          else some ((texts.map fun (_, r) =>
            match r with
            | .ok cs => if isCut cs then cs ++ ['\n'] else cs
            | .error _ => []).flatten)
        match script? with
        | none => refuse "no program given"
        | some script =>
          let operands := if c.files.isEmpty then c.operands.drop 1 else c.operands
          match Records.Script.read script with
          | .error e =>
            refuse ((if e.numbered then "line " else "") ++ toString e.line ++ ": " ++ e.message)
          | .ok s =>
            let values := (settings.filterMap (·.2)).map fun (x, v) =>
              (x, Records.Datum.entry (Records.Token.unescapedValue v))
            let separator := c.separator.map fun v => ("FS", Records.Datum.text (Records.Token.unescapedValue v))
            let start := Records.Store.start (separator.toList ++ values) ("awk" :: operands) (← environment)
            let (status, complaint) ← Records.Work.begin run s start
            match complaint with
            | some text => refuse text
            | none => pure status

end Stepwise.Shell.Tools
