import Stepwise.Journal.Level
import Stepwise.Text.Likeness
import Stepwise.Text.Lines
import Stepwise.Text.Quoted

/-!
The command line. Options and words may be mixed; two dashes end the options. An option takes its
value from the same argument or from the next one, whatever that looks like, and the last value
counts.
-/

namespace Stepwise

/-- The options. -/
inductive Switch
  | prompt
  | interactive
  | logLevel
  | showPlan
  | listCapabilities
  | help
  deriving DecidableEq, Repr

namespace Switch

/-- The names of an option. -/
def names : Switch → List String
  | prompt => ["-p", "--prompt"]
  | interactive => ["-i", "--interactive"]
  | logLevel => ["--log-level"]
  | showPlan => ["--show-plan"]
  | listCapabilities => ["--list-capabilities"]
  | help => ["-h", "--help"]

def all : List Switch := [prompt, interactive, logLevel, showPlan, listCapabilities, help]

/-- Whether an option has a value. -/
def takesValue : Switch → Bool
  | prompt => true
  | logLevel => true
  | _ => false

/-- The long names of all options, those that only show something and end included. -/
def longNames : List String :=
  ["--prompt", "--interactive", "--log-level", "--show-plan", "--list-capabilities", "--version", "--help"]

/-- The option with a name. -/
def ofName? (name : String) : Option Switch := all.find? fun s => s.names.contains name

end Switch

/-- What is wrong with the arguments. -/
inductive UsageError
  | unknownOption (name : String) (meant : List String)
  | missingValue (name : String)
  | needlessValue (name : String)
  | unknownLevel (given : String)
  deriving DecidableEq, Repr

namespace UsageError

/-- The levels as they are listed. -/
def choices : String :=
  Text.joinText ", " (Level.all.map fun l => "'" ++ Text.lowered l.name ++ "'")

/-- The options that may have been meant, in words. -/
def hint : List String → String
  | [] => ""
  | [name] => " Did you mean " ++ Text.quoted name ++ "?"
  | names => " (Did you mean one of: " ++
    Text.joinText ", " ((names.mergeSort fun a b => decide (a ≤ b)).map Text.quoted) ++ "?)"

/-- What is wrong, in words. -/
def message : UsageError → String
  | unknownOption name meant => "No such option " ++ Text.quoted name ++ "." ++ hint meant
  | missingValue name => "Option " ++ Text.quoted name ++ " requires an argument."
  | needlessValue name => "Option " ++ Text.quoted name ++ " does not take a value."
  | unknownLevel given =>
    "Invalid value for '--log-level': " ++ Text.quoted given ++ " is not one of " ++ choices ++ "."

/-- Whether the usage of the program is told along with what is wrong. An option that is known but
badly used is told of alone. -/
def tellsUsage : UsageError → Bool
  | missingValue _ => false
  | needlessValue _ => false
  | _ => true

end UsageError

/-- What the arguments ask for. -/
structure Invocation where
  words : List String
  prompt : Option String
  interactive : Bool
  logLevel : Option Level
  showPlan : Bool
  listCapabilities : Bool
  help : Bool
  deriving DecidableEq, Repr

namespace CommandLine

/-- One argument, as far as it can be read by itself: options with the value given at once, and at
the end perhaps one that still wants its value, under the name it was given. -/
structure Reading where
  given : List (Switch × Option String)
  wanting : Option (Switch × String)

/-- Reads the letters of an argument with a single dash. -/
def letters (given : List (Switch × Option String)) : List Char → Except UsageError Reading
  | [] => .ok ⟨given, none⟩
  | c :: rest =>
    let name := String.ofList ['-', c]
    match Switch.ofName? name with
    | none => .error (.unknownOption name [])
    | some s =>
      if s.takesValue then
        if rest.isEmpty then .ok ⟨given, some (s, name)⟩
        else .ok ⟨given ++ [(s, some (String.ofList rest))], none⟩
      else letters (given ++ [(s, none)]) rest

/-- Reads an option with two dashes, which may carry its value after an equals sign. -/
def longOption (arg : String) : Except UsageError Reading :=
  let (name, value) := match Text.cutFirst '=' arg.toList with
    | some (name, value) => (String.ofList name, some (String.ofList value))
    | none => (arg, none)
  match Switch.ofName? name, value with
  | some s, some v => if s.takesValue then .ok ⟨[(s, some v)], none⟩ else .error (.needlessValue name)
  | some s, none => if s.takesValue then .ok ⟨[], some (s, name)⟩ else .ok ⟨[(s, none)], none⟩
  | none, _ => .error (.unknownOption name (Text.suggestions Switch.longNames name))

/-- Reads an argument that begins with a dash. -/
def option (arg : String) : Except UsageError Reading :=
  if "--".toList.isPrefixOf arg.toList then longOption arg else letters [] (arg.toList.drop 1)

/-- Whether an argument is an option rather than a word. -/
def isOption (arg : String) : Bool := arg.toList.head? == some '-' && 1 < arg.length

/-- The options and the words of the arguments. -/
def scan : List (Switch × Option String) → List String → List String →
    Except UsageError (List (Switch × Option String) × List String)
  | given, words, [] => .ok (given, words)
  | given, words, arg :: rest =>
    if arg = "--" then .ok (given, words ++ rest)
    else if isOption arg then
      match option arg with
      | .error e => .error e
      | .ok ⟨more, none⟩ => scan (given ++ more) words rest
      | .ok ⟨more, some (s, name)⟩ =>
        match rest with
        | [] => .error (.missingValue name)
        | v :: rest => scan (given ++ more ++ [(s, some v)]) words rest
    else scan given (words ++ [arg]) rest

/-- The value that was given last for an option. -/
def lastValue (s : Switch) (given : List (Switch × Option String)) : Option String :=
  ((given.filter (·.1 == s)).getLast?).bind (·.2)

/-- Whether an option was given. -/
def isGiven (s : Switch) (given : List (Switch × Option String)) : Bool := given.any (·.1 == s)

/-- The level with a name in any case. -/
def levelOf (s : String) : Except UsageError Level :=
  match Level.all.find? fun l => Text.lowered l.name == Text.lowered s with
  | some l => .ok l
  | none => .error (.unknownLevel s)

/-- What arguments ask for. -/
def parse (args : List String) : Except UsageError Invocation := do
  let (given, words) ← scan [] [] args
  let help := isGiven .help given
  let level ← match lastValue .logLevel given with
    | some s => if help then pure none else some <$> levelOf s
    | none => pure none
  pure
    { words
      prompt := lastValue .prompt given
      interactive := isGiven .interactive given
      logLevel := level
      showPlan := isGiven .showPlan given
      listCapabilities := isGiven .listCapabilities given
      help }

/-- The line that tells how the program is called. -/
def usage : String := "Usage: cli [OPTIONS] [WORDS]...\n"

/-- The text about wrong arguments. -/
def complaint (e : UsageError) : String :=
  (if e.tellsUsage then usage ++ "Try 'cli --help' for help.\n\n" else "") ++ "Error: " ++ e.message ++
    "\n"

end CommandLine

/-- The request that is made at once: the prompt, or else the words. -/
def Invocation.request? (i : Invocation) : Option String :=
  match i.prompt.filter (!·.isEmpty) with
  | some p => some p
  | none => (some (Text.trimmed (Text.joinText " " i.words))).filter (!·.isEmpty)

end Stepwise
