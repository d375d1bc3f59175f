import Stepwise.Fault
import Stepwise.Number.Reading
import Stepwise.Text.Blank
import Stepwise.Text.Case
import Stepwise.Validation.Checked

/-!
Checks for the numbers and flags of the settings. A setting may be given as a value of the right
kind or as a text that denotes one; bounds are checked last.
-/

namespace Stepwise.Field

open Checked

/-- Zero and one as truth values. -/
def flagOfInt (i : Int) : Checked Bool :=
  if i = 0 then good false else if i = 1 then good true else problem .unreadableFlag

/-- Whether an integer fits into a machine word. -/
def isWord (i : Int) : Bool := -(2 : Int).pow 63 ≤ i && i < (2 : Int).pow 63

/-- The integer that a floating-point number is, if it lies strictly between the ends of a machine
word. -/
def wordOfDouble (d : Double) : Checked Int :=
  if !d.isFinite then problem .notFinite
  else
    match d.toInt? with
    | some i => if isWord i && i != -(2 : Int).pow 63 then good i else problem .oversizedInteger
    | none => problem .fractional

/-- A truth value; zero and one stand for the two. An integer that fits into no machine word is
taken for a floating-point number, and one of those that is no integer for no truth value at all. -/
def flag : Value → Checked Bool
  | .bool b => good b
  | .int i => if isWord i then flagOfInt i else problem .notFlag
  | .double d =>
    match wordOfDouble d with
    | good i => flagOfInt i
    | bad _ => problem .notFlag
  | .text s =>
    match Reading.flag? s with
    | some b => good b
    | none => problem .unreadableFlag
  | _ => problem .notFlag

/-- An integer; a whole floating-point number that fits into a machine word is one. -/
def integer : Value → Checked Int
  | .bool b => good (if b then 1 else 0)
  | .int i => good i
  | .double d => wordOfDouble d
  | .text s =>
    match Reading.integer s with
    | .ok i => good i
    | .error .unreadable => problem .unreadableInteger
    | .error .oversized => problem .oversizedInteger
  | _ => problem .notInteger

/-- A floating-point number; integers are rounded to one, if there is one near. -/
def number : Value → Checked Double
  | .bool b => good (.ofInt (if b then 1 else 0))
  | .int i => if (Double.ofInt i).isFinite then good (.ofInt i) else problem .notNumber
  | .double d => good d
  | .text s =>
    match Reading.number? s with
    | some d => good d
    | none => problem .unreadableNumber
  | _ => problem .notNumber

/-- A result that satisfies a condition, or else has a problem. -/
def ensure {α : Type} (ok : α → Bool) (p : Problem) : Checked α → Checked α
  | good a => if ok a then good a else problem p
  | bad issues => bad issues

/-- Whether a number is at least, or at most, a bound; `nan` is neither. -/
def atLeast (bound : Int) (d : Double) : Bool := (d.compareInt? bound).elim false (· != .lt)

def atMost (bound : Int) (d : Double) : Bool := (d.compareInt? bound).elim false (· != .gt)

def greater (bound : Int) (d : Double) : Bool := d.compareInt? bound == some .gt

end Stepwise.Field

/-!
Settings of the completion provider. Its kind selects a base address and a model for those that are
left out or empty.
-/

namespace Stepwise

/-- Where completions come from, and with which parameters. -/
structure Provider where
  kind : String
  baseUrl : Option String
  model : Option String
  apiKey : Option String
  temperature : Double
  maxTokens : Int
  stream : Bool
  deriving DecidableEq, Repr

namespace Provider

/-- What a kind of provider stands for. -/
structure Defaults where
  kind : String
  baseUrl : String
  model : String

/-- The kinds that are known. -/
def known : List Defaults :=
  [⟨"ollama", "http://localhost:11434/v1", "deepseek-coder-v2:16b"⟩,
    ⟨"deepseek", "https://api.deepseek.com", "deepseek-reasoner"⟩,
    ⟨"openai", "https://api.openai.com/v1", "gpt-4o"⟩]

/-- The provider that is used when nothing is set. -/
def standard : Provider := ⟨"deepseek", none, none, none, .ofInt 1, 8192, true⟩

/-- The kind as it is looked up. -/
def kindOf (s : String) : String := Text.lowered (Text.trimmed s)

/-- The sampling temperature. -/
def temperatureOf (v : Value) : Checked Double :=
  Field.ensure (Field.atLeast 0) .notAtLeast (Field.ensure (Field.atMost 2) .notAtMost (Field.number v))

/-- The greatest length of a completion. -/
def maxTokensOf (v : Value) : Checked Int :=
  Field.ensure (fun i => decide (0 < i)) .notGreater (Field.integer v)

/-- The names of the members that are read. -/
def memberNames : List String :=
  ["type", "base_url", "model", "api_key", "temperature", "max_tokens", "stream"]

/-- The provider that members describe; other members are ignored. -/
def ofMembers (ms : List (String × Value)) : Checked Provider :=
  Provider.mk <$> Checked.optional (fun v => (Checked.text v).map kindOf) standard.kind "type" ms
    <*> Checked.optional Checked.textOrNull none "base_url" ms
    <*> Checked.optional Checked.textOrNull none "model" ms
    <*> Checked.optional Checked.textOrNull none "api_key" ms
    <*> Checked.optional temperatureOf standard.temperature "temperature" ms
    <*> Checked.optional maxTokensOf standard.maxTokens "max_tokens" ms
    <*> Checked.optional Field.flag standard.stream "stream" ms

/-- The provider that a value describes. -/
def ofValue (v : Value) : Checked Provider := Checked.object ofMembers v

/-- The provider whose settings a value names, or what is wrong with them; only an object has names. -/
def ofNamed : Value → Except Fault Provider
  | .object ms => ((ofMembers ms).report "AIProviderConfig").mapError .invalid
  | v => .error (.general .type
      ("ai_cmd.core.config.AIProviderConfig() argument after ** must be a mapping, not " ++ v.kindName))

/-- What the kind stands for, if it is known. -/
def defaults? (p : Provider) : Option Defaults := known.find? (·.kind == p.kind)

/-- A text that is set and not empty. -/
def given? (s : Option String) : Option String := s.filter fun t => !t.isEmpty

/-- The base address in use. -/
def resolvedBaseUrl (p : Provider) : Option String :=
  (given? p.baseUrl).or (p.defaults?.map (·.baseUrl))

/-- The model in use. -/
def resolvedModel (p : Provider) : Except Fault String :=
  match (given? p.model).or (p.defaults?.map (·.model)) with
  | some m => .ok m
  | none => .error (.general .value
      ("No default model for provider type '" ++ p.kind ++ "'; set AI_CMD_AI__MODEL"))

/-- The key in use; a local server takes any. -/
def resolvedApiKey (p : Provider) : String :=
  (given? p.apiKey).getD (if p.kind = "ollama" then "ollama" else "")

/-- The key as it may be shown. -/
def maskedApiKey (p : Provider) : Option String :=
  p.apiKey.map fun k => if k.isEmpty then "" else "**********"

end Provider

end Stepwise
