import Stepwise.Json.Reader
import Stepwise.Settings.Basic
import Stepwise.Settings.Dotenv

/-!
Settings from variables. Names are matched in any letter case, after a common beginning; a double
underscore leads to the members of a setting. Lists and the provider as a whole are given in JSON.
Variables of the environment win over those of the variable file, member by member.
-/

namespace Stepwise.Settings

/-- Variables by their names in lower case; one without a value is only declared. -/
abbrev Variables := List (String × Option String)

/-- What the name of every variable begins with. -/
def opening : String := "ai_cmd_"

/-- The settings that are given as plain text. -/
def plainNames : List String :=
  ["output_ai_result", "file_encoding", "stream_delay_ms", "command_timeout", "max_recursion_depth",
    "log_level", "log_format", "log_file_dir"]

/-- The settings that are given in JSON. -/
def listNames : List String := ["plugins", "extensions"]

/-- The value given to a name. -/
def given (vars : Variables) (key : String) : Option String :=
  (vars.find? (·.1 == key)).bind (·.2)

/-- The value of a JSON text, or a fault that names the setting and its source. -/
def decode (source key s : String) : Except Fault Value :=
  match Json.parse s with
  | .ok v => .ok v
  | .error .tooDeep => .error .tooDeep
  | .error _ => .error (.general .settings
      ("error parsing value for field \"" ++ key ++ "\" from source \"" ++ source ++ "\""))

/-- Puts a value under a path of names, making objects on the way where nothing stands yet. -/
def insertAt (v : Value) : List String → List (String × Value) → List (String × Value)
  | [], members => members
  | [key], members => Value.assign key v members
  | key :: next :: path, members =>
    match Value.lookup members key with
    | none => Value.assign key (.object (insertAt v (next :: path) [])) members
    | some (.object inner) => Value.assign key (.object (insertAt v (next :: path) inner)) members
    | some _ => members

/-- The members of a setting that are given one by one; a variable without value gives null. -/
def nested (vars : Variables) (key : String) : List (String × Value) :=
  let start := (opening ++ key ++ "__").toList
  vars.foldl (fun members v =>
    if start.isPrefixOf v.1.toList then
      insertAt ((v.2.map Value.text).getD .null)
        ((Text.splitOn ['_', '_'] (v.1.toList.drop start.length)).map String.ofList) members
    else members) []

mutual

/-- Two objects merged member by member, the second winning. -/
def merge (base : List (String × Value)) : List (String × Value) → List (String × Value)
  | [] => base
  | (key, v) :: rest => merge (Value.assign key (mergeValue (Value.lookup base key) v) base) rest

def mergeValue (old : Option Value) : Value → Value
  | .object members =>
    match old with
    | some (.object base) => .object (merge base members)
    | _ => .object members
  | v => v

end

/-- A setting that is given in JSON as a whole, by its members, or both ways. -/
def structured (source : String) (vars : Variables) (key : String) : Except Fault (Option Value) :=
  match given vars (opening ++ key) with
  | none => .ok (if (nested vars key).isEmpty then none else some (.object (nested vars key)))
  | some s =>
    (decode source key s).map fun v =>
      match v with
      | .object members => some (.object (merge members (nested vars key)))
      | .null => none
      | v => some v

/-- The members of a provider under the names that they are matched by, in any letter case; of two
that match one name the later wins. -/
def renamed (members : List (String × Value)) : List (String × Value) :=
  members.foldl (fun acc m =>
    let key := (Provider.memberNames.find? (· == Text.lowered m.1)).getD m.1
    Value.assign key m.2 acc) []

/-- The settings of the provider in one source. -/
def providerOf (source : String) (vars : Variables) : Except Fault (Option Value) :=
  (structured source vars "ai").map fun v => v.map fun
    | .object members => .object (renamed members)
    | v => v

/-- The settings of one source, as members. -/
def membersOf (source : String) (vars : Variables) : Except Fault (List (String × Value)) :=
  match providerOf source vars with
  | .error f => .error f
  | .ok ai =>
    match listNames.mapM fun key => (structured source vars key).map fun v => v.map fun v => (key, v) with
    | .error f => .error f
    | .ok lists =>
      let plain := plainNames.filterMap fun key =>
        (given vars (opening ++ key)).map fun s => (key, Value.text s)
      .ok ((ai.elim [] fun v => [("ai", v)]) ++ lists.filterMap id ++ plain)

/-- A variable set in place, or added at the end. -/
def define (key : String) (value : Option String) : Variables → Variables
  | [] => [(key, value)]
  | (k, w) :: rest => if k = key then (k, value) :: rest else (k, w) :: define key value rest

/-- Variables with one entry for each name, where it is first set, and then with their names in
lower case. So of two names that differ in letter case the one that appears later wins, whenever it
is set last. -/
def normalize (vars : Variables) : Variables :=
  let distinct := vars.foldl (fun acc v => define v.1 v.2 acc) []
  distinct.foldl (fun acc v => define (Text.lowered v.1) v.2 acc) []

/-- The settings in an environment and, if there is one, the text of a variable file. -/
def load (environment : List (String × String)) (file : Option String) : Except Fault Settings :=
  let own : Variables := normalize (environment.map fun v => (v.1, some v.2))
  match membersOf "EnvSettingsSource" own with
  | .error f => .error f
  | .ok first =>
    match membersOf "DotEnvSettingsSource" (normalize (Dotenv.assignments environment (file.getD ""))) with
    | .error f => .error f
    | .ok second => ((ofMembers (merge second first)).report "Settings").mapError .invalid

end Stepwise.Settings
