import Std.Data.HashMap
import Stepwise.Shell.Records.Datum
import Stepwise.Shell.Records.Pattern
import Stepwise.Shell.Records.Script
import Stepwise.Shell.Tools.Basic

/-!
Tables of values by key. Keys are visited in the order of the slots into which a digest scatters them; in
a slot the key that was used last comes first. Keys that are whole numbers are scattered by their values
until the table is visited or a text is looked up.
-/

namespace Stepwise.Shell.Records

/-- A table: the values by key in slots, the whole numbers in slots of their own, and whether all keys
stand as texts in their slots. -/
structure Table where
  slots : Array (List (String × Datum))
  numbers : Array (List Int)
  lettered : Bool
  size : Nat
  deriving Inhabited

namespace Table

/-- The number of slots. -/
def width : Nat := 64

def empty : Table := ⟨Array.replicate width [], Array.replicate width [], false, 0⟩

/-- The digest of a text, in 32 bits. -/
def digest (s : String) : Nat :=
  s.toList.foldl (fun h c => (h.xor c.toNat) * 16777619 % 4294967296) 2166136261

/-- The slot of a text. -/
def slotOf (s : String) : Nat := digest s % width

/-- The slot of a whole number. -/
def slotOfNumber (i : Int) : Nat := (i % (width : Int)).toNat

/-- Brings a key of a slot to its front, if it is there. -/
def fronted (s : String) (l : List (String × Datum)) : List (String × Datum) :=
  match l.find? (·.1 == s) with
  | some x => x :: l.filter (·.1 != s)
  | none => l

/-- Puts all whole numbers in their slots as texts, in the order of the slots of the numbers. -/
def letter (t : Table) : Table :=
  if t.lettered then t
  else
    let keys := t.numbers.toList.flatten.map toString
    let slots := keys.foldl (fun (slots : Array (List (String × Datum))) k =>
      slots.modify (slotOf k) (fronted k)) t.slots
    { t with slots, lettered := true }

/-- The value at a key. -/
def find? (t : Table) (key : String) : Option Datum :=
  ((t.slots.getD (slotOf key) []).find? (·.1 == key)).map (·.2)

/-- Notes that a key is used; `number?` is the whole number that it is, if it is one. -/
def touch (t : Table) (number? : Option Int) (key : String) : Table :=
  let byText := fun (t : Table) =>
    let t := t.letter
    { t with slots := t.slots.modify (slotOf key) (fronted key) }
  match number? with
  | none => byText t
  | some i =>
    let k := slotOfNumber i
    let known := (t.numbers.getD k []).contains i
    let t := if known || !t.lettered then t else byText t
    { t with numbers := t.numbers.modify k fun l => i :: l.filter (· != i) }

/-- Sets the value at a key. -/
def insert (t : Table) (number? : Option Int) (key : String) (v : Datum) : Table :=
  let i := slotOf key
  let slot := t.slots.getD i []
  let t := if slot.any (·.1 == key) then
      { t with slots := t.slots.setIfInBounds i (slot.map fun x => if x.1 == key then (key, v) else x) }
    else
      let t := if number?.isNone then t.letter else t
      { t with slots := t.slots.modify i ((key, v) :: ·), size := t.size + 1 }
  t.touch number? key

/-- Forgets a key. -/
def erase (t : Table) (key : String) : Table :=
  let i := slotOf key
  let slot := t.slots.getD i []
  if slot.any (·.1 == key) then
    let size := t.size - 1
    if size = 0 then empty
    else
      { t with
        slots := t.slots.setIfInBounds i (slot.filter (·.1 != key))
        numbers := t.numbers.map fun l => l.filter fun n => toString n != key
        size }
  else t

/-- The keys in the order in which they are visited. -/
def keys (t : Table) : List String := (t.letter.slots.toList.flatten).map (·.1)

/-- A table of values that are counted from one on. -/
def ofList (vs : List Datum) : Table :=
  (vs.foldl (fun (acc : Table × Nat) v => (acc.1.insert (some (acc.2 : Int)) (toString acc.2) v, acc.2 + 1))
    (empty, 1)).1

end Table

end Stepwise.Shell.Records

/-!
What a script that works on records keeps: its variables and tables, the record with its fields, and
what it reads from and writes to.
-/

namespace Stepwise.Shell.Records

/-- The variables of a function while it runs: values, and tables by their numbers. -/
structure Frame where
  values : List (String × Datum)
  tables : List (String × Nat)
  deriving Inhabited

/-- Something that output goes to: what was not written yet stands in reverse order. -/
structure Outflow where
  outlet : Outlet
  name : String
  pending : List String

/-- What a script keeps. Either the record or its fields may have to be made from the other; `input?` is
what is left of the input that is read, and `flowing` tells which rules for several records apply. -/
structure Store where
  values : Std.HashMap String Datum
  tables : Array Table
  places : Std.HashMap String Nat
  frame : Option Frame
  record : String
  fields : Array Datum
  isSplit : Bool
  isJoined : Bool
  input? : Option (List Char)
  operand : Nat
  opened : Bool
  inputs : List (String × List Char × Nat)
  outputs : List Outflow
  pending : List String
  flowing : List Nat
  seed : Nat
  status : Nat
  ended : Bool

/-- Why a script does not go on with the next statement. -/
inductive Stop
  | leave
  | again
  | next
  | nextFile
  | exit
  | giveBack (v : Datum)
  | fault (message : String)

/-- Work on what a script keeps. -/
abbrev Work := ExceptT Stop (StateT Store Run)

namespace Store

/-- What a script keeps before it begins. -/
def start (vars : List (String × Datum)) (arguments : List String) (environment : List (String × String)) :
    Store where
  values := Std.HashMap.ofList ([("FS", Datum.text " "), ("OFS", .text " "), ("ORS", .text "\n"), ("RS", .text "\n"),
    ("CONVFMT", .text "%.6g"), ("OFMT", .text "%.6g"), ("SUBSEP", .text "\x1c"), ("NR", .ofNat 0),
    ("FNR", .ofNat 0), ("FILENAME", .text ""), ("RSTART", .ofNat 0), ("RLENGTH", .number (.ofInt (-1))),
    ("ARGC", .ofNat arguments.length)] ++ vars)
  tables := #[
    (arguments.foldl (fun (acc : Table × Nat) a =>
      (acc.1.insert (some (acc.2 : Int)) (toString acc.2) (.entry a), acc.2 + 1)) (.empty, 0)).1,
    environment.foldl (fun (t : Table) v => t.insert none v.1 (.entry v.2)) .empty]
  places := Std.HashMap.ofList [("ARGV", 0), ("ENVIRON", 1)]
  frame := none
  record := ""
  fields := #[]
  isSplit := true
  isJoined := true
  input? := none
  operand := 1
  opened := false
  inputs := []
  outputs := []
  pending := []
  flowing := []
  seed := 0
  status := 0
  ended := false

end Store

namespace Work

/-- Work of the shell. -/
def shell {α : Type} (m : Run α) : Work α := ExceptT.lift (StateT.lift m)

/-- Gives up with a complaint. -/
def fail {α : Type} (message : String) : Work α := throw (.fault message)

/-- Does something again as long as it asks for that, but not for ever. -/
def repeating (m : Work Bool) : Nat → Work Unit
  | 0 => pure ()
  | n + 1 => do
    shell Run.spend
    if ← m then repeating m n

/-- A text that a variable of the language holds. -/
def setting (name : String) : Work String := do
  match (← get).values[name]? with
  | some (.text s) => return s
  | some v => return v.toText "%.6g"
  | none => return ""

/-- A value as a text. -/
def textOf (v : Datum) : Work String := do
  match v with
  | .number x =>
    match x.toInt? with
    | some _ => return numberText "%.6g" x
    | none => return numberText (← setting "CONVFMT") x
  | v => return v.toText ""

/-- The regular expression that a text is. -/
def regexOf (s : String) : Work Regex := do
  match Pattern.read s.toList with
  | .ok r => return r
  | .error e => fail ("line 1: regular expression compile failed (" ++ e.message ++ ")\n" ++ s)

/-- Pieces of a text between matches that hold something; `n` is the most. -/
def piecesBetween (r : Regex) (t : Regex.Subject) : Nat → Nat → List String
  | 0, i => [String.ofList (t.slice i t.text.size)]
  | n + 1, i =>
    match firstFilled r t (t.text.size + 1) i with
    | some (j, k) => String.ofList (t.slice i j) :: piecesBetween r t n k
    | none => [String.ofList (t.slice i t.text.size)]
where
  /-- The first match that holds something. -/
  firstFilled (r : Regex) (t : Regex.Subject) : Nat → Nat → Option (Nat × Nat)
    | 0, _ => none
    | n + 1, i =>
      match r.find? t i with
      | some (j, e) => if j < e.position then some (j, e.position) else firstFilled r t n (j + 1)
      | none => none

/-- Words with blanks between them. -/
def words (cs : List Char) : List String :=
  let step := fun (acc : List String × List Char) (c : Char) =>
    if isBlank c then (if acc.2.isEmpty then acc else (String.ofList acc.2.reverse :: acc.1, []))
    else (acc.1, c :: acc.2)
  let (done, last) := cs.foldl step ([], [])
  (if last.isEmpty then done else String.ofList last.reverse :: done).reverse

/-- The parts of a text: words for a blank, characters for nothing, and otherwise what stands between
separators. -/
def partsOf (separator : String) (s : String) : Work (List String) := do
  if s.isEmpty then return []
  else
    match separator.toList with
    | [' '] => return words s.toList
    | [] => return s.toList.map String.singleton
    | [c] => return (Text.splitAt c s.toList).map String.ofList
    | _ => return piecesBetween (← regexOf separator) (.of s.toList false) (s.length + 1) 0

/-- Makes the fields from the record, if they have to be. -/
def split : Work Unit := do
  let s ← get
  unless s.isSplit do
    let parts ← partsOf (← setting "FS") s.record
    modify fun s => { s with fields := (parts.map Datum.entry).toArray, isSplit := true }

/-- Makes the record from the fields, if it has to be. -/
def join : Work Unit := do
  let s ← get
  unless s.isJoined do
    let between ← setting "OFS"
    let texts ← s.fields.toList.mapM textOf
    modify fun s => { s with record := Text.joinText between texts, isJoined := true }

/-- Replaces the record. -/
def setRecord (text : String) : Work Unit :=
  modify fun s => { s with record := text, isJoined := true, isSplit := false }

/-- A field, or the record. -/
def field (i : Nat) : Work Datum := do
  if i = 0 then
    join
    return .entry (← get).record
  else
    split
    return ((← get).fields[i - 1]?).getD (.text "")

/-- Makes the number of fields what it is to be. -/
def resize (n : Nat) : Work Unit := do
  split
  modify fun s =>
    { s with
      fields := s.fields.extract 0 n ++ Array.replicate (n - s.fields.size) (.text "")
      isJoined := false }

/-- Replaces a field, or the record. -/
def setField (i : Nat) (v : Datum) : Work Unit := do
  if i = 0 then setRecord (← textOf v)
  else
    split
    if (← get).fields.size < i then resize i
    modify fun s => { s with fields := s.fields.setIfInBounds (i - 1) v, isJoined := false }

/-- The value of a variable. -/
def value (name : String) : Work Datum := do
  let s ← get
  match s.frame.bind fun (f : Frame) => f.values.find? (·.1 == name) with
  | some x => return x.2
  | none =>
    if name = "NF" then
      split
      return .ofNat (← get).fields.size
    else return (s.values[name]?).getD .unset

/-- A complaint about what happens while a script runs. -/
def broken {α : Type} (message : String) : Work α := do
  let name ← textOf (← value "FILENAME")
  let number := fun (s : String) => do textOf (← value s)
  fail ("run time error: " ++ message ++ "\n\tFILENAME=\"" ++ name ++ "\" FNR=" ++ (← number "FNR") ++ " NR=" ++
    (← number "NR"))

/-- Makes the number of fields what a value says. -/
def resizeTo (v : Datum) : Work Unit := do
  let n := v.toNumber.truncated.toInt?.getD 0
  if n < 0 then broken "negative value assigned to NF" else resize n.toNat

/-- Sets a variable. -/
def setValue (name : String) (v : Datum) : Work Unit := do
  let s ← get
  match s.frame with
  | some f =>
    if f.values.any (·.1 == name) then
      set { s with frame := some { f with values := f.values.map fun (x : String × Datum) => if x.1 == name then (name, v) else x } }
      return
  | none => pure ()
  if name = "NF" then resizeTo v
  else
    if name = "FS" then split
    modify fun s => { s with values := s.values.insert name v }

/-- The number of a table, which is made if there is none. -/
def place (name : String) : Work Nat := do
  let s ← get
  match s.frame.bind fun (f : Frame) => f.tables.find? (·.1 == name) with
  | some x => return x.2
  | none =>
    match s.places[name]? with
    | some i => return i
    | none =>
      set { s with tables := s.tables.push .empty, places := s.places.insert name s.tables.size }
      return s.tables.size

/-- The number of a new table. -/
def newPlace : Work Nat := do
  let s ← get
  set { s with tables := s.tables.push .empty }
  return s.tables.size

/-- Whether a name is that of a table. -/
def isTable (name : String) : Work Bool := do
  let s ← get
  return (s.frame.any fun f => f.tables.any (·.1 == name)) || s.places.contains name

/-- A change of a table. -/
def change (i : Nat) (f : Table → Table) : Work Unit :=
  modify fun s => { s with tables := s.tables.modify i f }

/-- Writes what is still to be written to the standard output. -/
def flush : Work Unit := do
  let s ← get
  unless s.pending.isEmpty do
    set { s with pending := [] }
    shell (Run.write 1 (String.join s.pending.reverse))

/-- A command that the shell carries out. -/
def carry (run : Launcher) (command : String) : Run Nat := do
  return (← run ["/bin/sh", "-c", command]).getD 127

/-- Writes what is still to be written somewhere; a command runs only when it is `ended`. -/
def pour (run : Launcher) (ended : Bool) (o : Outflow) : Run Nat := do
  let text := bytes (String.join o.pending.reverse)
  match o.outlet with
  | .command =>
    if ended then
      let i ← Run.newStream text
      Run.apart do
        Run.join 0 (.stream i)
        carry run o.name
    else pure 0
  | _ =>
    match device? (← Run.locate o.name) with
    | some (.descriptor d) => Run.writeBytes d text
    | some _ => pure ()
    | none =>
      let _ ← Run.store (← Run.locate o.name) (· ++ text)
    pure 0

/-- Writes everything that is still to be written, but lets commands wait. -/
def flushAll (run : Launcher) : Work Unit := do
  flush
  let s ← get
  for o in s.outputs do
    let _ ← shell (pour run false o)
  modify fun s => { s with outputs := s.outputs.map fun o =>
    if o.outlet = .command then o else { o with pending := [] } }

/-- Closes everything that output goes to, what was used last first. -/
def closeAll (run : Launcher) : Work Unit := do
  let s ← get
  set { s with outputs := [] }
  for o in s.outputs do
    let _ ← shell (pour run true o)
  flush

/-- Writes a text somewhere, which is opened first. -/
def emit (run : Launcher) (outlet : Outlet) (name text : String) : Work Unit := do
  if outlet ≠ .command && name = "/dev/stdout" then
    modify fun s => { s with pending := text :: s.pending }
  else if outlet ≠ .command && name = "/dev/stderr" then shell (Run.write 2 text)
  else
    let s ← get
    let same := fun (o : Outflow) => (o.outlet == .command) == (outlet == .command) && o.name == name
    match s.outputs.find? same with
    | some o =>
      set { s with outputs := { o with pending := text :: o.pending } :: s.outputs.filter fun o => !same o }
    | none =>
      if outlet = .command then flushAll run
      else
        let p ← shell (Run.locate name)
        let flaw ← if (device? p).isSome then pure none
          else shell (Run.store p fun old => if outlet = .file then [] else old)
        match flaw with
        | some e => throw (.fault ("cannot open \"" ++ name ++ "\" for output (" ++ Tools.reason e ++ ")"))
        | none => pure ()
      modify fun s => { s with outputs := ⟨outlet, name, [text]⟩ :: s.outputs }

/-- Closes what output goes to or input comes from; tells the status. -/
def close (run : Launcher) (name : String) : Work Int := do
  let s ← get
  match s.outputs.find? (·.name == name) with
  | some o =>
    set { s with outputs := s.outputs.filter (·.name != name) }
    flush
    return (← shell (pour run true o))
  | none =>
    match s.inputs.find? (·.1 == name) with
    | some (_, _, status) =>
      set { s with inputs := s.inputs.filter (·.1 != name) }
      return status
    | none => return -1

end Work

end Stepwise.Shell.Records
