import Stepwise.Number.Shortest
import Stepwise.Text.Lines
import Stepwise.Text.Quoted
import Stepwise.Value.Basic

/-!
Values in prose, as they appear in messages and wherever a value stands in for a text: a text shows
as itself, but between quotes inside a list or an object.
-/

namespace Stepwise.Value

mutual

/-- A value as it shows inside another one. -/
def shown : Value → String
  | null => "None"
  | bool b => if b then "True" else "False"
  | int i => toString i
  | double d => d.text
  | text s => Text.quoted s
  | list items => "[" ++ Text.joinText ", " (shownItems items) ++ "]"
  | object members => "\x7b" ++ Text.joinText ", " (shownMembers members) ++ "\x7d"
  | handle label => label

def shownItems : List Value → List String
  | [] => []
  | v :: vs => shown v :: shownItems vs

def shownMembers : List (String × Value) → List String
  | [] => []
  | (k, v) :: ms => (Text.quoted k ++ ": " ++ shown v) :: shownMembers ms

end

/-- A value as a text. -/
def display : Value → String
  | text s => s
  | v => shown v

/-- The word for the kind of an object that is known by a label: the label names the kind, or the kind
and then the object. -/
def handleKind (label : String) : String :=
  let inside := (label.toList.drop 1).dropLast
  if label = "<callable>" then "method"
  else
    match Text.cutFirst ' ' inside with
    | some (kind, rest) =>
      if kind = "instance".toList then String.ofList rest
      else if kind = "class".toList then "type"
      else String.ofList kind
    | none => String.ofList inside

/-- The word for the kind of a value in messages. -/
def kindName : Value → String
  | null => "NoneType"
  | bool _ => "bool"
  | int _ => "int"
  | double _ => "float"
  | text _ => "str"
  | list _ => "list"
  | object _ => "dict"
  | handle label => handleKind label

/-- Whether a value counts as something: zero and the empty values do not. -/
def isSomething : Value → Bool
  | null => false
  | bool b => b
  | int i => i != 0
  | double d => d.toInt? != some 0
  | text s => !s.isEmpty
  | list items => !items.isEmpty
  | object members => !members.isEmpty
  | handle _ => true

/-- The items that a value yields one by one: characters of a text, names of members. A value that
yields none is refused with the word for its kind. -/
def elements : Value → Except String (List Value)
  | list items => .ok items
  | text s => .ok (s.toList.map fun c => text (String.ofList [c]))
  | object members => .ok (members.map fun m => text m.1)
  | v => .error v.kindName

end Stepwise.Value
