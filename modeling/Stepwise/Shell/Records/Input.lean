import Stepwise.Shell.Records.Store
import Stepwise.Shell.Records.Token

/-!
Reading records: from the files that are named on the command line, from others, and from commands.
-/

namespace Stepwise.Shell.Records.Work

/-- The next record of a text that is not empty, and what follows it. -/
def cut (separator : String) (cs : List Char) : Work (Option (String × List Char)) := do
  match separator.toList with
  | [] =>
    let cs := cs.dropWhile (· == '\n')
    if cs.isEmpty then return none
    else
      let ls := Tools.linesOf cs
      let paragraph := ls.takeWhile fun l => !l.isEmpty
      let length := (paragraph.map fun l => l.length + 1).foldl (· + ·) 0
      return some (String.ofList (Text.join ['\n'] paragraph), (cs.drop length).dropWhile (· == '\n'))
  | [c] =>
    if cs.isEmpty then return none
    else
      let record := cs.takeWhile (· != c)
      return some (String.ofList record, cs.drop (record.length + 1))
  | _ =>
    if cs.isEmpty then return none
    else
      let t := Regex.Subject.of cs false
      match piecesBetween.firstFilled (← regexOf separator) t (cs.length + 1) 0 with
      | some (i, j) => return some (String.ofList (cs.take i), cs.drop j)
      | none => return some (String.ofList cs, [])

/-- The variable and the value that an operand is, if it is an assignment. -/
def assignment? (s : String) : Option (String × String) :=
  let cs := s.toList
  let name := cs.takeWhile fun c => c.isAlphanum || c == '_'
  match cs.drop name.length with
  | '=' :: value =>
    if name.head?.any (fun c => c.isAlpha || c == '_') then some (String.ofList name, String.ofList value) else none
  | _ => none

/-- Opens the next input that the command line names; tells whether there was one. -/
def openNext : Nat → Work Bool
  | 0 => return false
  | n + 1 => do
    let s ← get
    let count := ((← value "ARGC").toNumber.truncated.toInt?.getD 0).toNat
    let begin := fun (name label : String) => do
      match ← shell (Tools.contents name) with
      | .ok cs =>
        modify fun s => { s with input? := some cs, opened := true }
        setValue "FILENAME" (.entry label)
        setValue "FNR" (.ofNat 0)
        return true
      | .error e =>
        let text := Tools.reason e
        if text = Errno.isDirectory.text then fail ("read error (" ++ text ++ ")")
        else throw (.fault ("cannot open \"" ++ name ++ "\" (" ++ text ++ ")"))
    if count ≤ s.operand then
      if s.opened || s.ended then return false
      else
        modify fun s => { s with ended := true }
        begin "-" "-"
    else
      modify fun s => { s with operand := s.operand + 1 }
      let t := s.tables.getD 0 .empty
      let argument ← match t.find? (toString s.operand) with
        | some v => textOf v
        | none => pure ""
      if argument.isEmpty then openNext n
      else
        match assignment? argument with
        | some (name, v) =>
          setValue name (.entry (Token.unescapedValue v))
          openNext n
        | none => begin argument argument

/-- The next record of the inputs that the command line names. -/
def nextRecord : Nat → Work (Option String)
  | 0 => return none
  | n + 1 => do
    let s ← get
    match s.input? with
    | some cs =>
      match ← cut (← setting "RS") cs with
      | some (record, rest) =>
        modify fun s => { s with input? := some rest }
        for name in ["NR", "FNR"] do setValue name (.number ((← value name).toNumber.add (.ofInt 1)))
        return some record
      | none =>
        modify fun s => { s with input? := none }
        nextRecord n
    | none => if ← openNext 100000 then nextRecord n else return none

/-- The next record of a file or of what a command writes: none at the end, and an error if there is nothing
to read. -/
def recordOf (run : Launcher) (command : Bool) (name : String) : Work (Except Unit (Option String)) := do
  let s ← get
  let found ← match s.inputs.find? (·.1 == name) with
    | some (_, cs, _) => pure (some cs)
    | none =>
      if command then
        flushAll run
        let i ← shell (Run.newStream [])
        let status ← shell (Run.apart do
          Run.join 1 (.stream i)
          carry run name)
        let cs := (← shell (Run.streamBytes i)).map fun b => Char.ofNat b.toNat
        modify fun s => { s with inputs := (name, cs, status) :: s.inputs }
        pure (some cs)
      else
        match ← shell (Tools.contents (if name = "/dev/stdin" then "-" else name)) with
        | .ok cs =>
          modify fun s => { s with inputs := (name, cs, 0) :: s.inputs }
          pure (some cs)
        | .error e =>
          let text := Tools.reason e
          if text = Errno.isDirectory.text then fail ("read error (" ++ text ++ ")") else pure none
  match found with
  | none => return .error ()
  | some cs =>
    match ← cut (← setting "RS") cs with
    | some (record, rest) =>
      modify fun s => { s with inputs := s.inputs.map fun x => if x.1 == name then (name, rest, x.2.2) else x }
      return .ok (some record)
    | none => return .ok none

end Stepwise.Shell.Records.Work
