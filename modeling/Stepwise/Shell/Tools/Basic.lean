import Stepwise.Shell.Escape
import Stepwise.Shell.Integer
import Stepwise.Shell.Machine
import Stepwise.Shell.Quoting

/-!
What the programs of the shell have in common: options and operands, inputs that are files or the
standard input, and complaints.
-/

namespace Stepwise.Shell

/-- A way to carry out another program; it gives the status unless there is no such program. -/
abbrev Launcher := List String → Run (Option Nat)

/-- A program gets a way to carry out others, and its arguments; it gives its status. -/
abbrev Program := Launcher → List String → Run Nat

namespace Tools

open Run

/-- Why a path was refused, in words. -/
def reason : Fault → String
  | .system e => e.errno.text
  | f => spelled f.message

/-- A text between curved quotes. -/
def named (s : String) : String := Quoting.curved s

/-- The name of a file before a colon. -/
def shown (s : String) : String := Quoting.name s

/-- A text between quotes. -/
def quoted (s : String) : String := Quoting.always s

/-- Complains, and gives a status. -/
def fault (tool text : String) (status : Nat) : Run Nat := do
  write 2 (tool ++ ": " ++ text ++ "\n")
  pure status

/-- Writes characters to the standard output. -/
def out (cs : List Char) : Run Unit := writeBytes 1 (cs.map fun c => UInt8.ofNat c.toNat)

/-- Does something for each argument; the worst status counts. -/
def forEach (f : String → Run Nat) (args : List String) : Run Nat :=
  args.foldlM (fun worst a => return max worst (← f a)) 0

/-- An option: its letter, its name in full, and whether a value comes with it, always or perhaps. -/
structure Option_ where
  letter : Char
  name : String
  valued : Bool
  optional : Bool

/-- A short description of options: letters, each followed by a colon if a value comes with it, and by
two if one perhaps does. -/
def lettered : List Char → List Option_
  | c :: ':' :: ':' :: rest => ⟨c, "", true, true⟩ :: lettered rest
  | c :: ':' :: rest => ⟨c, "", true, false⟩ :: lettered rest
  | c :: rest => ⟨c, "", false, false⟩ :: lettered rest
  | [] => []

/-- Options that are named by words, with their letters; a value may come with some of them. -/
def worded (names : List (String × Char × Bool)) : List Option_ :=
  names.map fun (name, c, valued) => ⟨c, name, valued, false⟩

/-- The options and the operands among arguments. -/
structure Parsed where
  options : List (Char × String)
  operands : List String

namespace Parsed

def has (p : Parsed) (c : Char) : Bool := p.options.any (·.1 == c)

/-- The value of an option; the last one counts. -/
def value? (p : Parsed) (c : Char) : Option String := ((p.options.reverse.find? (·.1 == c))).map (·.2)

end Parsed

/-- The option that a word names, in full or by a beginning that is its alone. -/
def ofWord? (known : List Option_) (word : String) : Except String Option_ :=
  let named := known.filter fun o => !o.name.isEmpty
  match named.find? (·.name == word) with
  | some o => .ok o
  | none =>
    match named.filter fun o => word.toList.isPrefixOf o.name.toList with
    | [o] => .ok o
    | [] => .error ("unrecognized option '--" ++ word ++ "'")
    | o :: os =>
      if os.all fun p => p.letter == o.letter && p.valued == o.valued then .ok o else
      let os := o :: os
      .error ("option '--" ++ word ++ "' is ambiguous; possibilities:" ++
        String.join (os.map fun o => " '--" ++ o.name ++ "'"))

/-- Reads arguments; options may stand anywhere unless `early` asks for them before the operands. -/
def parse (known : List Option_) (early : Bool) : Nat → List (Char × String) → List String → List String →
    Except String Parsed
  | 0, os, ops, args => .ok ⟨os.reverse, ops.reverse ++ args⟩
  | _, os, ops, [] => .ok ⟨os.reverse, ops.reverse⟩
  | n + 1, os, ops, a :: args =>
    match a.toList with
    | ['-', '-'] => .ok ⟨os.reverse, ops.reverse ++ args⟩
    | '-' :: '-' :: cs =>
      let word := String.ofList (cs.takeWhile (· != '='))
      let given := if word.length < cs.length then some (String.ofList (cs.drop (word.length + 1))) else none
      match ofWord? known word with
      | .error e => .error e
      | .ok o =>
        match o.valued, given, args with
        | true, some v, _ => parse known early n ((o.letter, v) :: os) ops args
        | true, none, args =>
          match o.optional, args with
          | true, args => parse known early n ((o.letter, "") :: os) ops args
          | false, v :: rest => parse known early n ((o.letter, v) :: os) ops rest
          | false, [] => .error ("option '--" ++ o.name ++ "' requires an argument")
        | false, some _, _ => .error ("option '--" ++ o.name ++ "' doesn't allow an argument")
        | false, none, _ => parse known early n ((o.letter, "") :: os) ops args
    | '-' :: c :: cs =>
      match known.find? fun o => o.letter == c with
      | none => .error ("invalid option -- '" ++ String.singleton c ++ "'")
      | some o =>
        if o.valued then
          match cs, o.optional, args with
          | _ :: _, _, _ => parse known early n ((c, String.ofList cs) :: os) ops args
          | [], true, _ => parse known early n ((c, "") :: os) ops args
          | [], false, v :: rest => parse known early n ((c, v) :: os) ops rest
          | [], false, [] => .error ("option requires an argument -- '" ++ String.singleton c ++ "'")
        else if cs.isEmpty then parse known early n ((c, "") :: os) ops args
        else parse known early n ((c, "") :: os) ops (String.ofList ('-' :: cs) :: args)
    | _ =>
      if early then .ok ⟨os.reverse, ops.reverse ++ a :: args⟩
      else parse known early n os (a :: ops) args

/-- What a program says after a complaint about its use. -/
def hint (tool : String) : String := "\nTry '" ++ tool ++ " --help' for more information."

/-- Reads arguments, and goes on with them unless they are wrong. -/
def withOptions (tool : String) (status : Nat) (known : List Option_) (early : Bool) (args : List String)
    (f : Parsed → Run Nat) : Run Nat :=
  let steps := args.foldl (fun n a => n + a.length + 1) 1
  match parse known early steps [] [] args with
  | .ok p => f p
  | .error e => fault tool (e ++ hint tool) status

/-- The characters of a file, the standard input being written as a dash. -/
def contents (a : String) : Run (Except Fault (List Char)) := do
  let read ← if a = "-" then readAll
    else
      let p ← locate a
      match device? p with
      | some (.descriptor n) => remaining (← channel? n)
      | some d => remaining (some (.device d))
      | none => ask fun t => t.readFile p
  return read.map fun bs => bs.map fun b => Char.ofNat b.toNat

/-- Whether an input, the standard one being written as a dash, is the file that the standard output leads
to. -/
def isOutput (a : String) : Run Bool := do
  let place := fun (c : Option Channel) => do
    match c with
    | some (.file i) =>
      match (← get).opened[i]? with
      | some f => placeOfPath? true f.path
      | none => pure none
    | _ => pure none
  let input ← if a = "-" then place (← channel? 0) else placeOfPath? true (← locate a)
  let output ← place (← channel? 1)
  return input.isSome && input == output

/-- Does something with the characters of each file, or of the standard input if none is named. -/
def eachInput (tool : String) (f : String → List Char → Run Unit) (args : List String) : Run Nat :=
  forEach (fun a => do
    match ← contents a with
    | .ok cs =>
      f a cs
      pure 0
    | .error e => fault tool (shown a ++ ": " ++ reason e) 1) (if args.isEmpty then ["-"] else args)

/-- The lines of a text without their ends. -/
def linesOf (cs : List Char) : List (List Char) :=
  let (done, last) := cs.foldl (fun (acc : List (List Char) × List Char) c =>
    if c = '\n' then (acc.2.reverse :: acc.1, []) else (acc.1, c :: acc.2)) ([], [])
  (if last.isEmpty then done else last.reverse :: done).reverse

/-- Lines with their ends. -/
def unlines (ls : List (List Char)) : List Char := ls.flatMap fun l => l ++ ['\n']

/-- Whether a text ends in the middle of a line. -/
def isCut (cs : List Char) : Bool := cs.getLast?.any (· != '\n')

/-- Lines with their ends, the last one being cut off if it was. -/
def relines (cut : Bool) (ls : List (List Char)) : List Char :=
  if cut then (unlines ls).dropLast else unlines ls

/-- All characters of files, or of the standard input if none is named; the worst status counts. -/
def gather (tool : String) (args : List String) : Run (List (List Char) × Nat) := do
  (if args.isEmpty then ["-"] else args).foldlM (fun (texts, status) a => do
    match ← contents a with
    | .ok cs => pure (texts ++ [cs], status)
    | .error e => return (texts, max status (← fault tool (shown a ++ ": " ++ reason e) 1))) ([], 0)

/-- A number with blanks in front. -/
def aligned (width n : Nat) : String :=
  let s := toString n
  String.ofList (List.replicate (width - s.length) ' ') ++ s

end Tools

end Stepwise.Shell
