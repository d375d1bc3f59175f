import Stepwise.Event
import Stepwise.Journal.Basic

/-!
What a log looks like on a terminal without colours. Answers and notes go to the standard output;
failures and those records of the journal that are grave enough go to the standard error.
-/

namespace Stepwise.Console

/-- Whether the code of a character is between two bounds. -/
def isWithin (low high : Nat) (c : Char) : Bool := low ≤ c.toNat && c.toNat ≤ high

/-- What follows a control sequence after its opening: parameters, intermediate characters and the
final one. -/
def afterControl? (cs : List Char) : Option (List Char) :=
  match (cs.dropWhile (isWithin 0x30 0x3F)).dropWhile (isWithin 0x20 0x2F) with
  | final :: after => if isWithin 0x40 0x7E final then some after else none
  | [] => none

/-- A text of at most `n` characters without the control sequences of terminals. -/
def plainFrom : Nat → List Char → List Char
  | 0, cs => cs
  | _, [] => []
  | n + 1, c :: rest =>
    match c.toNat, rest with
    | 0x1B, '[' :: more =>
      match afterControl? more with
      | some after => plainFrom n after
      | none => c :: plainFrom n rest
    | _, _ => c :: plainFrom n rest

/-- A text without the control sequences of terminals. -/
def plain (s : String) : String := String.ofList (plainFrom s.length s.toList)

/-- A text as a line of its own. -/
def line (s : String) : String := plain s ++ "\n"

/-- What an entry writes to the standard output. -/
def output : Event → String
  | .deed (.show .error _) => ""
  | .deed (.show _ text) => line text
  | .deed (.stream text _) => text ++ "\n"
  | .terminal text => text
  | _ => ""

/-- The record of the journal that an entry tells of. -/
def record? : Event → Option Journal.Record
  | .deed (.diagnostic level source text) => some (.of level source text)
  | .handoff content => some (.of .debug .dispatcher ("Recursing with: " ++ content))
  | _ => none

/-- What an entry writes to the standard error. -/
def errors (j : Journal) (stamp : Journal.Stamp) (e : Event) : String :=
  match e with
  | .deed (.show .error text) => line text
  | e =>
    match e.failureLine?, record? e with
    | some s, _ => line s
    | none, some r => j.shown stamp r
    | none, none => ""

end Stepwise.Console
