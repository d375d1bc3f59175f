import Stepwise.Capability.Files
import Stepwise.Journal.Level
import Stepwise.Text.Lines

/-!
Records of the journal and the layouts in which they are written. Loggers have dotted names; a
logger without a level of its own has that of the nearest one above it, and the root keeps all.
-/

namespace Stepwise.Journal

/-- When and where a record was made. -/
structure Stamp where
  time : String
  file : String
  line : Nat
  function : String
  deriving DecidableEq, Repr

/-- A record of a logger. -/
structure Record where
  logger : String
  level : Level
  text : String
  deriving DecidableEq, Repr

/-- How records are written. -/
inductive Layout
  | simple
  | detailed
  | json
  deriving DecidableEq, Repr

namespace Layout

def name : Layout → String
  | simple => "simple"
  | detailed => "detailed"
  | json => "json"

/-- The layout of a word; unknown words mean the detailed one. -/
def ofName (s : String) : Layout :=
  if s = simple.name then simple else if s = json.name then json else detailed

/-- A record as a line. Only the simple layout leaves the stamp out. -/
def line (l : Layout) (stamp : Stamp) (r : Record) : String :=
  let level := r.level.name
  let place := stamp.file ++ ":" ++ toString stamp.line
  match l with
  | simple => Text.joinText " - " [level, r.logger, r.text]
  | detailed =>
    Text.joinText " - "
      [stamp.time, r.logger, level, "[" ++ place ++ "]", stamp.function ++ "()", r.text]
  | json =>
    "\x7b\"timestamp\": \"" ++ stamp.time ++ "\", \"level\": \"" ++ level ++ "\", \"logger\": \"" ++
      r.logger ++ "\", \"module\": \"" ++ stamp.file ++ "\", \"function\": \"" ++ stamp.function ++
      "\", \"line\": " ++ toString stamp.line ++ ", \"message\": \"" ++ r.text ++ "\"\x7d"

end Layout

/-- The loggers with a level of their own. -/
def levels : List (String × Level) :=
  [("ai_cmd.agent_core", .debug), ("ai_cmd.agent_core.planning", .debug),
    ("ai_cmd.agent_core.runtime", .debug), ("ai_cmd.agent_core.plugins", .debug),
    ("ai_cmd.agent_core.capabilities", .debug), ("httpx", .warning), ("httpcore", .warning),
    ("openai", .warning), ("asyncio", .warning)]

/-- The level of the root, which other loggers fall back to. -/
def rootLevel : Level := .debug

/-- The record of a diagnostic. -/
def Record.of (level : Level) (source : Source) (text : String) : Record := ⟨source.name, level, text⟩

/-- The level that holds for a logger, its name given by parts, the last one first. -/
def levelOf : List (List Char) → Level
  | [] => rootLevel
  | part :: above =>
    match levels.find? (·.1.toList == Text.join ['.'] (part :: above).reverse) with
    | some l => l.2
    | none => levelOf above

/-- Whether a logger takes a record at all. -/
def Record.isTaken (r : Record) : Bool :=
  Threshold.admits (some (levelOf (Text.splitAt '.' r.logger.toList).reverse)) r.level

end Stepwise.Journal

/-!
The journal: records go to the console if they are grave enough, and all of them to a file if a
directory was named for it.
-/

namespace Stepwise

/-- Where records go, and in which layout. -/
structure Journal where
  layout : Journal.Layout
  console : Threshold
  file : Option Path
  deriving DecidableEq, Repr

namespace Journal

/-- What was asked for: the level of the console in capitals, the layout and the directory. -/
structure Choice where
  level : String
  layout : String
  directory : Option String
  deriving DecidableEq, Repr

/-- The first of two texts that is not empty. -/
def firstOf (s t : Option String) : Option String :=
  match s.filter (!·.isEmpty) with
  | some s => some s
  | none => t

/-- The value of a variable. -/
def given? (environment : List (String × String)) (name : String) : Option String :=
  (environment.find? (·.1 == name)).map (·.2)

/-- What is asked for by arguments, by variables where an argument is missing, or else by default. -/
def choose (level layout directory : Option String) (environment : List (String × String)) : Choice where
  level := Text.uppered
    ((firstOf level (given? environment "AI_CMD_LOG_LEVEL")).getD "WARNING")
  layout := (firstOf layout (given? environment "AI_CMD_LOG_FORMAT")).getD "simple"
  directory := firstOf directory (given? environment "AI_CMD_LOG_FILE_DIR")

/-- The text that tells what was chosen. -/
def Choice.text (c : Choice) : String :=
  "Logging configured: level=" ++ c.level ++ ", format=" ++ c.layout ++
    ", file_dir=" ++ c.directory.getD "None"

/-- The record that tells what was chosen. -/
def Choice.record (c : Choice) : Record := .of .debug .root c.text

/-- The name of the file. -/
def fileName : String := "ai_cmd.log"

/-- A record as it is written. -/
def entry (j : Journal) (stamp : Stamp) (r : Record) : String := j.layout.line stamp r ++ "\n"

/-- What the console shows of a record. -/
def shown (j : Journal) (stamp : Stamp) (r : Record) : String :=
  if r.isTaken && j.console.admits r.level then j.entry stamp r else ""

/-- Writes records to the file, if there is one. -/
def write (j : Journal) (stamp : Stamp) (records : List Record) : Files.FileAct Unit :=
  match j.file with
  | some p => (records.filter Record.isTaken).forM fun r => Files.appendText (.text "utf-8") p (j.entry stamp r)
  | none => pure ()

/-- A fault whose paths are told relative to the working directory. -/
def relative (site : Site) : Fault → Fault
  | .system ⟨e, paths⟩ =>
    let base := (site.directory.text ++ "/").toList
    .system ⟨e, paths.map fun p =>
      if base.isPrefixOf p.toList then String.ofList (p.toList.drop base.length) else p⟩
  | f => f

/-- Opens the file in a directory, which is made if it is missing. -/
def openFile (site : Site) (directory : Path) : Files.FileAct Path := do
  let full := site.directory ++ directory
  match ← (Files.makeAll full).attempt with
  | .ok () =>
    let p : Path := ⟨full.root, Path.collapse [] (full.child fileName).parts⟩
    Files.edit fun t => t.writeFile p id
    pure p
  | .error f => Act.fail (if directory.root.isEmpty then relative site f else f)

/-- The journal that was chosen. -/
def setUp (site : Site) (c : Choice) : Files.FileAct Journal := do
  match Threshold.ofName? c.level with
  | none => Act.fail (.general .value ("Unknown level: " ++ Text.quoted c.level))
  | some least =>
    let file ← match c.directory.filter (!·.isEmpty) with
      | some d => (fun p => some p) <$> openFile site (.ofText d)
      | none => pure none
    pure ⟨.ofName c.layout, least, file⟩

end Journal

end Stepwise
