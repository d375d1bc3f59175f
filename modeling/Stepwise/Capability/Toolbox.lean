import Stepwise.Capability.Arity
import Stepwise.Chat.Prompt
import Stepwise.Engine.Basic

/-!
The built-in capabilities: their declarations, how many arguments each takes, and what each does.
-/

namespace Stepwise.Toolbox

/-- A built-in function: the name it is declared under, its parameters, how many of them may be left
out, whether it does nothing until awaited, and its description. -/
structure Tool where
  builtin : Builtin
  name : String
  params : List String
  spare : Nat
  deferred : Bool
  description : String

/-- The built-in functions. -/
def tools : List Tool :=
  [⟨.createFile, "create_file", ["file_path", "content"], 1, true,
      "Create a file with the given content, creating parent directories"⟩,
    ⟨.createDirectory, "create_directory", ["dir_path"], 0, true,
      "Create a directory, including missing parents"⟩,
    ⟨.modifyFile, "modify_file", ["file_path", "content"], 1, true,
      "Overwrite an existing file; returns false if it does not exist"⟩,
    ⟨.readFile, "read_file", ["file_path"], 0, true,
      "Read a file and return its content as a string, or null if missing"⟩,
    ⟨.appendToFile, "append_to_file", ["file_path", "content"], 1, true,
      "Append content to an existing file"⟩,
    ⟨.fileExists, "file_exists", ["file_path"], 0, false,
      "Return true if the path exists, false otherwise"⟩,
    ⟨.deleteFile, "delete_file", ["file_path"], 0, true, "Delete a file"⟩,
    ⟨.deleteDirectory, "delete_directory", ["dir_path"], 0, true,
      "Delete a directory and everything in it"⟩,
    ⟨.rename, "rename", ["old_path", "new_path"], 0, true, "Rename a file or directory"⟩,
    ⟨.moveFile, "move_file", ["source_path", "destination_path"], 0, true,
      "Move a file, creating the destination directory"⟩,
    ⟨.getFileInfo, "get_file_info", ["file_path"], 0, true,
      "Return a dict with path, size, timestamps and file/directory flags"⟩,
    ⟨.getFileNameList, "get_file_name_list", ["dir_path"], 0, true,
      "Return the names of the entries in a directory"⟩,
    ⟨.clearDirectory, "clear_directory", ["dir_path"], 0, true,
      "Delete everything inside a directory but keep the directory"⟩,
    ⟨.executeCommand, "execute_command", ["command"], 0, true,
      "Run a shell command in the working directory and return its stdout"⟩,
    ⟨.requestAi, "request_ai", ["system_description", "prompt"], 2, true,
      "Ask the completion provider to handle a small text task (generate, translate, summarize, " ++
        "compute, analyse code). system_description sets the behaviour, prompt carries the task. " ++
        "Returns only the result text, with no explanation"⟩,
    ⟨.executeCode, "execute_code", ["code"], 0, true,
      "Run a block of Python code and return its result"⟩]

/-- The built-in values. -/
def values : List (Descriptor × Value) :=
  [(.value "httpx" "The httpx library, for HTTP requests", .handle "<module httpx>"),
    (.value "datetime" "The datetime module, for dates and times", .handle "<module datetime>"),
    (.value "shutil" "The shutil module, for high-level file operations", .handle "<module shutil>")]

/-- The tool of a built-in function. -/
def toolOf? (b : Builtin) : Option Tool := tools.find? (·.builtin == b)

/-- Whether a built-in function does nothing until awaited. -/
def isDeferred (b : Builtin) : Bool := (toolOf? b).elim true (·.deferred)

/-- Why a number of arguments does not fit. -/
def arityError? (t : Tool) (given : Nat) : Option String :=
  Arity.refusal? ("DefaultExtension." ++ t.name) t.params t.spare given

variable {σ : Type} (e : Engine σ)

/-- Work on the files of the world. -/
def onFiles (m : Act Deed FileTree Value) : Act Deed σ Value := Act.zoom e.host.files e.host.putFiles m

/-- Runs a command, and shows that it runs, what it wrote and that it ended well. -/
def executeCommand (command : Value) : Act Deed σ Value := do
  Act.say (.show .info ("Executing system command: " ++ command.display))
  let r ← e.command command.display
  if r.success then
    if !r.stdout.isEmpty then Act.say (.show .plain r.shown)
    Act.say (.show .success "System command executed successfully")
    pure (.text r.stdout)
  else Act.fail (r.fault r.command)

/-- The first of two values that is something. -/
def orElse (v : Option Value) (w : Value) : Value :=
  match v with
  | some x => if x.isSomething then x else w
  | none => w

/-- The behaviour and the task of a request; one object may carry both. -/
def taskOf (description prompt : Value) : Value × Value :=
  match description with
  | .object members =>
    (orElse (Value.lookup members "system_description") (.text ""),
      orElse (Value.lookup members "prompt") (orElse (some prompt) (.text "")))
  | v => (v, prompt)

/-- Asks the completion provider for a small text. -/
def requestAi (description prompt : Value) : Act Deed σ Value := do
  let (behaviour, task) := taskOf description prompt
  let system := Text.trimmed behaviour.display
  let reply ← e.complete .task
    [⟨.system, if system.isEmpty then Prompt.textTask else system⟩, ⟨.user, task.display⟩]
  pure (.text reply)

/-- What a built-in function does with arguments that fit. -/
def perform (outputs : Outputs) (b : Builtin) (args : List Value) : Act Deed σ Value :=
  let first := args.getD 0 (.text "")
  let second := args.getD 1 (.text "")
  let encoding := e.settings.fileEncoding
  match b with
  | .createFile => onFiles e (Files.createFile e.site encoding first second)
  | .createDirectory => onFiles e (Files.createDirectory e.site first)
  | .modifyFile => onFiles e (Files.modifyFile e.site encoding first second)
  | .readFile => onFiles e (Files.readFile e.site encoding first)
  | .appendToFile => onFiles e (Files.appendToFile e.site encoding first second)
  | .fileExists => onFiles e (Files.fileExists e.site first)
  | .deleteFile => onFiles e (Files.deleteFile e.site first)
  | .deleteDirectory => onFiles e (Files.deleteDirectory e.site first)
  | .rename => onFiles e (Files.rename e.site first second)
  | .moveFile => onFiles e (Files.moveFile e.site first second)
  | .getFileInfo => onFiles e (Files.getFileInfo e.site first)
  | .getFileNameList => onFiles e (Files.getFileNameList e.site first)
  | .clearDirectory => onFiles e (Files.clearDirectory e.site first)
  | .executeCommand => executeCommand e first
  | .requestAi => requestAi e first second
  | .executeCode => e.host.execute outputs first.display

/-- Calls a built-in function. -/
def call (outputs : Outputs) (b : Builtin) (args : List Value) : Act Deed σ Value :=
  match (toolOf? b).bind fun t => arityError? t args.length with
  | some text => Act.fail (.general .type text)
  | none => perform e outputs b args

/-- The entries of the built-in capabilities, which always have the index zero. -/
def entries : List (Entry σ) :=
  (tools.map fun t =>
    Entry.ofDescriptor (.function t.name t.params t.description) 0 (.builtin t.builtin)) ++
  values.map fun v => Entry.ofDescriptor v.1 0 (.value v.2)

/-- The catalogue that holds only what is built in. -/
def catalogue : Catalogue σ := ⟨defaultSpace, entries, [.text "DefaultExtension"]⟩

end Stepwise.Toolbox
