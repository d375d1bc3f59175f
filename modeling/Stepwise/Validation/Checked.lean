import Stepwise.Validation.Report
import Stepwise.Value.Basic

/-!
Reading a record out of a value member by member. A check yields a result or all that is wrong, and
checks of independent members are combined without losing a problem of either.
-/

namespace Stepwise

/-- A result, or the issues that stand in its way. -/
inductive Checked (α : Type)
  | good (a : α)
  | bad (issues : List Issue)

namespace Checked

def map {α β : Type} (f : α → β) : Checked α → Checked β
  | good a => good (f a)
  | bad issues => bad issues

/-- Applies a checked function; issues of both sides are kept in order. -/
def apply {α β : Type} : Checked (α → β) → Checked α → Checked β
  | good f, good a => good (f a)
  | good _, bad issues => bad issues
  | bad issues, good _ => bad issues
  | bad issues, bad more => bad (issues ++ more)

instance : Functor Checked := ⟨map, fun a => map fun _ => a⟩

instance : Seq Checked := ⟨fun f a => apply f (a ())⟩

/-- One problem of the value itself. -/
def problem {α : Type} (p : Problem) : Checked α := bad [⟨[], p⟩]

/-- The issues of a member, under its name. -/
def under {α : Type} (key : String) : Checked α → Checked α
  | good a => good a
  | bad issues => bad (issues.map fun i => ⟨key :: i.path, i.problem⟩)

/-- The result, or a report on a subject. -/
def report {α : Type} (subject : String) : Checked α → Except Report α
  | good a => .ok a
  | bad issues => .error ⟨subject, issues⟩

/-- A member that must be there. -/
def required {α : Type} (read : Value → Checked α) (key : String)
    (members : List (String × Value)) : Checked α :=
  match Value.lookup members key with
  | some v => under key (read v)
  | none => under key (problem .missing)

/-- A member with a default. -/
def optional {α : Type} (read : Value → Checked α) (default : α) (key : String)
    (members : List (String × Value)) : Checked α :=
  match Value.lookup members key with
  | some v => under key (read v)
  | none => good default

/-- The first result, if the members have no names but the given ones. -/
def closed {α : Type} (names : List String) (members : List (String × Value)) (c : Checked α) :
    Checked α :=
  let extra := members.filter fun m => !names.contains m.1
  if extra.isEmpty then c
  else apply (map (fun a _ => a) c)
    (bad (extra.map fun m => ⟨[m.1], .extraMember⟩) : Checked Unit)

/-- The members of an object. -/
def object {α : Type} (read : List (String × Value) → Checked α) : Value → Checked α
  | .object members => read members
  | _ => problem .notObject

/-- A text. -/
def text : Value → Checked String
  | .text s => good s
  | _ => problem .notText

/-- A text of at least one character. -/
def nonEmptyText : Value → Checked String
  | .text s => if s.isEmpty then problem .tooShort else good s
  | _ => problem .notText

/-- A text or nothing. -/
def textOrNull : Value → Checked (Option String)
  | .null => good none
  | .text s => good (some s)
  | _ => problem .notText

/-- Items read one by one, from a position on. -/
def itemsFrom {α : Type} (read : Value → Checked α) : Nat → List Value → Checked (List α)
  | _, [] => good []
  | n, v :: vs => apply (map List.cons (under (toString n) (read v))) (itemsFrom read (n + 1) vs)

/-- A list of texts. -/
def texts : Value → Checked (List String)
  | .list items => itemsFrom text 0 items
  | _ => problem .notList

end Checked

end Stepwise
