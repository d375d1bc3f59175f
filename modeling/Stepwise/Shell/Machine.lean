import Stepwise.Capability.Files
import Stepwise.Shell.Integer
import Stepwise.Shell.Script

/-!
What a shell works on: files, variables, and descriptors that lead to streams of bytes or to files.
Each character of a text of the shell stands for one byte. Time passes only while the shell sleeps,
and what is written keeps the time at which it was.
-/

namespace Stepwise.Shell

/-- The bytes of a text of the shell. -/
def bytes (s : String) : List UInt8 := s.toList.map fun c => UInt8.ofNat c.toNat

/-- Bytes as a text of the shell. -/
def ofBytes (bs : List UInt8) : String := String.ofList (bs.map fun b => Char.ofNat b.toNat)

/-- A text in the letters of the shell. -/
def spelled (s : String) : String := ofBytes (Text.Utf8.encode s.toList)

/-- Bytes in the letters of everyone else. -/
def textOf (bs : List UInt8) : String := String.ofList (Text.Utf8.decodeLenient bs)

/-- The path that a text of the shell spells. -/
def pathOf (s : String) : Path := Path.ofText (textOf (bytes s))

/-- Files that are not kept: one that is empty and takes everything, one that never ends, one that
takes nothing, and the descriptors themselves. -/
inductive Device
  | void
  | zeros
  | full
  | descriptor (n : Nat)
  deriving DecidableEq, Repr

/-- The device at a path. -/
def device? (p : Path) : Option Device :=
  match p.parts with
  | ["dev", "null"] => some .void
  | ["dev", "zero"] => some .zeros
  | ["dev", "full"] => some .full
  | ["dev", "stdin"] => some (.descriptor 0)
  | ["dev", "stdout"] => some (.descriptor 1)
  | ["dev", "stderr"] => some (.descriptor 2)
  | ["dev", "fd", n] => (String.toNat? n).map .descriptor
  | _ => none

/-- What a descriptor leads to. -/
inductive Channel
  | stream (index : Nat)
  | file (index : Nat)
  | device (d : Device)
  | directory
  deriving DecidableEq, Repr

/-- Bytes with the time they were written at, the last ones first. -/
abbrev Stream := List (Nat × List UInt8)

/-- The bytes of a stream in order of time. -/
def Stream.bytes (s : Stream) : List UInt8 :=
  ((s.reverse.mergeSort fun a b => decide (a.1 ≤ b.1)).map (·.2)).flatten

/-- A file that is open, and where the next byte is read or written. -/
structure OpenFile where
  path : Path
  offset : Nat
  appending : Bool
  deriving Repr

/-- A variable of a shell, perhaps without a value. -/
structure Variable where
  name : String
  value : Option String
  exported : Bool
  readOnly : Bool
  deriving Repr

/-- A command that runs beside the shell: its number, its process, how and when it ends, whether it could
write to where the shell writes, and whether it was waited for. -/
structure Job where
  number : Nat
  process : Nat
  status : Nat
  ends : Nat
  writes : Bool
  waited : Bool
  deriving Repr

/-- The state of a shell. Times are in microseconds; files keep the time of their last change, if it is
known, and a file may stand at several places. An inner shell is part of another one, which gets
the signals that are sent to both. -/
structure Machine where
  site : Site
  files : FileTree
  directory : Path
  name : String
  parameters : List String
  vars : List Variable
  locals : List (List Variable)
  functions : List (String × Command)
  calls : Nat
  loops : Nat
  aliases : List (String × String)
  options : List Char
  traps : List (Nat × String)
  pending : List Nat
  inner : Bool
  ending : Bool
  sent : List Nat
  status : Nat
  substituted : Nat
  line : Nat
  label : Option String
  mask : Nat
  option : Nat
  letter : Nat
  programs : List Path
  stamps : List (Place × Int)
  twins : List (List Place)
  remembered : List String
  streams : Array Stream
  opened : Array OpenFile
  channels : List (Nat × Channel)
  documents : List Word
  process : Nat
  spawned : Nat
  jobs : List Job
  lingering : Nat
  budget : Nat
  elapsed : Nat
  patience : Nat

/-- Why a shell stops before the end of a command. A fault ends the shell unless it comes from a
command that is not special. -/
inductive Halt
  | exit (status : Nat)
  | fault (status : Nat)
  | signal (number : Nat)
  | timeout
  | leave (levels : Nat)
  | again (levels : Nat)
  | back (status : Nat)
  deriving DecidableEq, Repr

/-- Work of a shell. -/
abbrev Run := ExceptT Halt (StateM Machine)

namespace Run

/-- What a descriptor leads to, unless it is closed. -/
def channel? (d : Nat) : Run (Option Channel) := do
  return ((← get).channels.find? (·.1 == d)).map (·.2)

/-- Closes a descriptor. -/
def close (d : Nat) : Run Unit :=
  modify fun m => { m with channels := m.channels.filter (·.1 != d) }

/-- Makes a descriptor lead somewhere. -/
def join (d : Nat) (c : Channel) : Run Unit :=
  modify fun m => { m with channels := (d, c) :: m.channels.filter (·.1 != d) }

/-- A new stream with some bytes in it. -/
def newStream (bs : List UInt8) : Run Nat := do
  let i := (← get).streams.size
  modify fun m => { m with streams := m.streams.push [(0, bs)] }
  pure i

/-- The bytes in a stream. -/
def streamBytes (i : Nat) : Run (List UInt8) := do return ((← get).streams.getD i []).bytes

/-- Replaces the bytes in a stream. -/
def setStream (i : Nat) (bs : List UInt8) : Run Unit :=
  modify fun m => { m with streams := m.streams.modify i fun s => [((s.map (·.1)).foldl max 0, bs)] }

/-- Opens a file. -/
def openFile (p : Path) (appending : Bool) : Run Nat := do
  let i := (← get).opened.size
  modify fun m => { m with opened := m.opened.push ⟨p, 0, appending⟩ }
  pure i

/-- A path relative to the working directory. -/
def locate (s : String) : Run Path := do return (← get).directory ++ pathOf s

/-- A question to the files. -/
def ask {α : Type} (f : FileTree → Except Fault α) : Run (Except Fault α) := do return f (← get).files

/-- A change of the files; tells whether and why it was refused. -/
def edit (f : FileTree → Except Fault FileTree) : Run (Option Fault) := do
  match f (← get).files with
  | .ok t =>
    modify fun m => { m with files := t }
    pure none
  | .error e => pure (some e)

/-- The time at which the shell began, in microseconds. -/
def beginning : Int := 1700000000000000

/-- The present time, as files keep it: the clock of files goes on by steps. -/
def now : Run Int := do return beginning + (((← get).elapsed / 4000 * 4000 : Nat) : Int)

/-- The place of a path, links being followed if that is asked for. -/
def placeOfPath? (follow : Bool) (p : Path) : Run (Option Place) := do
  match ← ask fun t => t.spot follow p with
  | .ok s => pure (s.node.map fun _ => s.place)
  | .error _ => pure none

/-- The time of the last change at a place. -/
def timeAt (place : Place) : Run Int := do
  return (((← get).stamps.find? (·.1 == place)).map (·.2)).getD beginning

/-- Notes the time of the last change at a place. -/
def stamp (place : Place) (time : Int) : Run Unit :=
  modify fun m => { m with stamps := (place, time) :: m.stamps.filter (·.1 != place) }

/-- The other places at which the file at a place stands. -/
def twinsOf (place : Place) : Run (List Place) := do
  return (((← get).twins.find? (·.contains place)).getD []).filter (· != place)

/-- Notes that the file at a place stands there only. -/
def untwin (place : Place) : Run Unit :=
  modify fun m => { m with twins := (m.twins.map (·.filter (· != place))).filter (1 < ·.length) }

/-- Notes that the file at a place stands at another one too. -/
def twin (old new : Place) : Run Unit := do
  untwin new
  modify fun m =>
    let group := (m.twins.find? (·.contains old)).getD [old]
    { m with twins := (group ++ [new]) :: m.twins.filter (!·.contains old) }

/-- A change of the bytes of a file, at all places where it stands; tells whether and why it was
refused. -/
def store (p : Path) (change : List UInt8 → List UInt8) : Run (Option Fault) := do
  match ← edit fun t => t.writeFile p change with
  | some e => pure (some e)
  | none =>
    match ← placeOfPath? true p with
    | none => pure none
    | some place =>
      stamp place (← now)
      for other in ← twinsOf place do
        stamp other (← now)
        let bytes := ((← ask fun t => t.readFile p).toOption).getD []
        let _ ← edit fun t => .ok (t.put other (.file bytes))
      pure none

/-- Work on the files; tells whether and why it failed. -/
def work (m : Files.FileAct Unit) : Run (Option Fault) := do
  let r := m.run (← get).files
  modify fun s => { s with files := r.world }
  match r.result with
  | .ok () => pure none
  | .error e => pure (some e)

/-- Bytes with some of them replaced from an offset on; a gap is filled with zeros. -/
def overwrite (offset : Nat) (new old : List UInt8) : List UInt8 :=
  old.take offset ++ List.replicate (offset - old.length) 0 ++ new ++ old.drop (offset + new.length)

/-- Writes bytes to a descriptor; tells why it was refused. -/
def writeBytes? (d : Nat) (bs : List UInt8) : Run (Option Errno) := do
  match ← channel? d with
  | some (.stream i) =>
    unless bs.isEmpty do
      modify fun m => { m with streams := m.streams.modify i fun s => (m.elapsed, bs) :: s }
    pure none
  | some (.file i) =>
    match (← get).opened[i]? with
    | some f =>
      let place := fun (old : List UInt8) => if f.appending then old.length else f.offset
      let old := ((← ask fun t => t.readFile f.path).toOption).getD []
      unless bs.isEmpty do
        let _ ← store f.path fun old => overwrite (place old) bs old
      modify fun m =>
        { m with opened := m.opened.modify i fun f => { f with offset := place old + bs.length } }
      pure none
    | none => pure none
  | some (.device .full) => pure (if bs.isEmpty then none else some .noSpace)
  | some _ => pure none
  | none => pure (some .badDescriptor)

/-- Writes bytes to a descriptor. -/
def writeBytes (d : Nat) (bs : List UInt8) : Run Unit := do
  let _ ← writeBytes? d bs

/-- Writes a text to a descriptor. -/
def write (d : Nat) (s : String) : Run Unit := writeBytes d (bytes s)

/-- As many zeros as are ever asked for. -/
def zeros : List UInt8 := List.replicate 1000000 0

/-- What is still to be read from a channel; a directory cannot be read. -/
def remaining (c : Option Channel) : Run (Except Fault (List UInt8)) := do
  match c with
  | some (.stream i) => return .ok (← streamBytes i)
  | some (.file i) =>
    match (← get).opened[i]? with
    | some f => return (← ask fun t => t.readFile f.path).map (·.drop f.offset)
    | none => pure (.ok [])
  | some (.device .zeros) => pure (.ok zeros)
  | some .directory => pure (.error (.system ⟨.isDirectory, []⟩))
  | some _ => pure (.ok [])
  | none => pure (.error (.system ⟨.badDescriptor, []⟩))

/-- Takes bytes off a channel, being given those that were left. -/
def consume (c : Option Channel) (left : List UInt8) (n : Nat) : Run Unit := do
  match c with
  | some (.stream i) => setStream i (left.drop n)
  | some (.file i) =>
    modify fun m => { m with opened := m.opened.modify i fun f => { f with offset := f.offset + n } }
  | _ => pure ()

/-- Lets time pass. -/
def pass (microseconds : Nat) : Run Unit := do
  modify fun m => { m with elapsed := m.elapsed + microseconds }
  let m ← get
  if m.patience ≤ m.elapsed then throw .timeout

/-- The time that it takes to begin a command beside the shell, to begin an inner shell, and to begin a
program. -/
def asideDelay : Nat := 10
def innerDelay : Nat := 15
def programDelay : Nat := 20

/-- Waits until everything in a channel has been written. -/
def await (c : Option Channel) : Run Unit := do
  match c with
  | some (.stream i) =>
    let m ← get
    let last := ((m.streams.getD i []).map (·.1)).foldl max 0
    if m.elapsed < last then pass (last - m.elapsed)
  | _ => pure ()

/-- Takes all bytes off the standard input. -/
def readAll : Run (Except Fault (List UInt8)) := do
  let c ← channel? 0
  await c
  match ← remaining c with
  | .ok bs =>
    consume c bs bs.length
    pure (.ok bs)
  | .error e => pure (.error e)

/-- Takes a line off the standard input, and tells whether it was ended. -/
def readLine : Run (List UInt8 × Bool) := do
  let c ← channel? 0
  match ← remaining c with
  | .ok bs =>
    let first := bs.takeWhile (· != 10)
    consume c bs (first.length + 1)
    pure (first, first.length < bs.length)
  | .error _ => pure ([], false)

/-- Complains about the line that is carried out. -/
def complain (s : String) : Run Unit := do
  let m ← get
  let label := m.label.elim "" (· ++ ": ")
  write 2 (m.name ++ ": " ++ toString m.line ++ ": " ++ label ++ s ++ "\n")

/-- Complains, and gives up what is being carried out. -/
def fail {α : Type} (s : String) : Run α := do
  complain s
  throw (.fault 2)

/-- The variable with a name. -/
def lookup? (name : String) : Run (Option Variable) := do
  return (← get).vars.find? (·.name == name)

/-- The value of a variable. -/
def valueOf? (name : String) : Run (Option String) := do
  return (← lookup? name).bind (·.value)

/-- Whether an option is set. -/
def isSet (letter : Char) : Run Bool := do return (← get).options.contains letter

/-- Replaces a variable, whatever it was. -/
def put (v : Variable) : Run Unit :=
  modify fun m => { m with vars := v :: m.vars.filter (·.name != v.name) }

/-- The number that an argument is, which has to be one to count with. -/
def count (s : String) : Run Nat := do
  match count? s with
  | some n => pure n
  | none => fail ("Illegal number: " ++ s)

/-- Lets options be read from the argument with a number on, which a text tells. -/
def beginOptions (value : String) : Run Unit := do
  match count? value with
  | some n => modify fun m => { m with option := max n 1, letter := 0 }
  | none => fail ("Illegal number: " ++ value)

/-- Sets a variable, which has to allow it. -/
def assign (name value : String) : Run Unit := do
  let old := (← lookup? name).getD ⟨name, none, ← isSet 'a', false⟩
  if old.readOnly then fail (name ++ ": is read only")
  else
    if name = "OPTIND" then beginOptions value
    put { old with value := some value }

/-- Forgets a variable, which has to allow it. -/
def unset (name : String) : Run Unit := do
  if ((← lookup? name).map (·.readOnly)).getD false then fail (name ++ ": is read only")
  else
    if name = "OPTIND" then beginOptions ""
    modify fun m => { m with vars := m.vars.filter (·.name != name) }

/-- Spends a step of what the shell may do; scripts that never end run out of them. -/
def spend : Run Unit := do
  let m ← get
  match m.budget with
  | 0 => throw .timeout
  | n + 1 => set { m with budget := n }

/-- An action whose changes of the state are partly undone when it ends, however it ends. -/
def undoing {α : Type} (restore : Machine → Machine → Machine) (m : Run α) : Run α := do
  let before ← get
  try
    let a ← m
    modify (restore before)
    pure a
  catch h =>
    modify (restore before)
    throw h

/-- An action whose descriptors are as before when it ends. -/
def apart {α : Type} (m : Run α) : Run α :=
  undoing (fun before after => { after with channels := before.channels }) m

/-- Sets the status. -/
def setStatus (n : Nat) : Run Unit := modify fun m => { m with status := n }

end Run

end Stepwise.Shell
