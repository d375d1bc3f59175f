import Stepwise.Fault
import Stepwise.Settings.Provider

/-!
The settings of the program. Each has a default; members of other names are ignored. What is set later
is taken as it is, so that a setting may come to hold a value of another kind than it should.
-/

namespace Stepwise

/-- Everything that can be set. -/
structure Settings where
  ai : Provider
  echoPlan : Bool
  plugins : List String
  extensions : List String
  fileEncoding : Value
  streamDelay : Value
  commandTimeout : Double
  maxDepth : Value
  logLevel : String
  logFormat : String
  logDirectory : Option String
  deriving DecidableEq, Repr

namespace Settings

/-- The settings that are used when nothing is set. -/
def standard : Settings where
  ai := .standard
  echoPlan := false
  plugins := []
  extensions := []
  fileEncoding := .text "utf-8"
  streamDelay := .int 10
  commandTimeout := .ofInt 300
  maxDepth := .int 5
  logLevel := "WARNING"
  logFormat := "simple"
  logDirectory := none

/-- An integer that is not negative. -/
def naturalOf (v : Value) : Checked Value :=
  Value.int <$> Field.ensure (fun i => decide (0 ≤ i)) .notAtLeast (Field.integer v)

/-- A number of seconds. -/
def secondsOf (v : Value) : Checked Double :=
  Field.ensure (Field.greater 0) .notGreater (Field.number v)

/-- The settings that members describe. -/
def ofMembers (ms : List (String × Value)) : Checked Settings :=
  Settings.mk <$> Checked.optional Provider.ofValue standard.ai "ai" ms
    <*> Checked.optional Field.flag standard.echoPlan "output_ai_result" ms
    <*> Checked.optional Checked.texts standard.plugins "plugins" ms
    <*> Checked.optional Checked.texts standard.extensions "extensions" ms
    <*> Checked.optional (fun v => Value.text <$> Checked.text v) standard.fileEncoding "file_encoding" ms
    <*> Checked.optional naturalOf standard.streamDelay "stream_delay_ms" ms
    <*> Checked.optional secondsOf standard.commandTimeout "command_timeout" ms
    <*> Checked.optional naturalOf standard.maxDepth "max_recursion_depth" ms
    <*> Checked.optional Checked.text standard.logLevel "log_level" ms
    <*> Checked.optional Checked.text standard.logFormat "log_format" ms
    <*> Checked.optional Checked.textOrNull standard.logDirectory "log_file_dir" ms

/-- The settings other than those of the provider, by name. -/
def toMembers (s : Settings) : List (String × Value) :=
  [("output_ai_result", .bool s.echoPlan), ("plugins", .list (s.plugins.map .text)),
    ("extensions", .list (s.extensions.map .text)), ("file_encoding", s.fileEncoding),
    ("stream_delay_ms", s.streamDelay), ("command_timeout", .double s.commandTimeout),
    ("max_recursion_depth", s.maxDepth), ("log_level", .text s.logLevel),
    ("log_format", .text s.logFormat),
    ("log_file_dir", (s.logDirectory.map Value.text).getD .null)]

/-- The most levels that a limit can stand for. -/
def boundless : Nat := Nat.pow 10 18

/-- How many levels of further requests there may be. -/
def levels (s : Settings) : Nat :=
  match s.maxDepth with
  | .int i => i.toNat
  | .bool b => b.toNat
  | .double .nan => boundless
  | .double (.infinite negative) => if negative then 0 else boundless
  | .double (.finite negative m e) =>
    let unit := Nat.pow 2 (-e).toNat
    if negative then 0 else (m * Nat.pow 2 e.toNat + unit - 1) / unit
  | _ => 0

/-- Why there may be no more levels. -/
def refusal (s : Settings) : Fault :=
  match s.maxDepth with
  | .int i => .depthExceeded (.int i)
  | .bool b => .depthExceeded (.bool b)
  | .double d => .depthExceeded (.double d)
  | v => .general .type ("'>=' not supported between instances of 'int' and '" ++ v.kindName ++ "'")

/-- The settings with one of them changed. Names with an underscore in front are free. -/
def assign (s : Settings) (name : String) (v : Value) : Except Fault Settings :=
  if name = "output_ai_result" then .ok { s with echoPlan := v.isSomething }
  else if name = "file_encoding" then .ok { s with fileEncoding := v }
  else if name = "stream_delay_ms" then .ok { s with streamDelay := v }
  else if name = "max_recursion_depth" then .ok { s with maxDepth := v }
  else if name = "ai" ∨ (s.toMembers.any (·.1 == name)) ∨ name.toList.head? = some '_' then .ok s
  else .error (.general .value ("\"Settings\" object has no field \"" ++ name ++ "\""))

end Settings

end Stepwise
