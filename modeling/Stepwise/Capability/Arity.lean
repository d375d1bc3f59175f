import Stepwise.Text.Lines

/-!
Counting arguments: why a call with some number of them does not fit the parameters of a method.
-/

namespace Stepwise.Arity

/-- Names in a message: quoted, with a comma between them and a word before the last. -/
def enumerate (names : List String) : String :=
  let quoted := names.map fun n => "'" ++ n ++ "'"
  match quoted with
  | [a, b] => a ++ " and " ++ b
  | _ =>
    match quoted.reverse with
    | [] => ""
    | [a] => a
    | last :: rest => Text.joinText ", " rest.reverse ++ ", and " ++ last

/-- Why a number of arguments does not fit the parameters of a method, the last `spare` of which may be
left out. The object that the method is called on counts among what is taken. -/
def refusal? (method : String) (params : List String) (spare given : Nat) : Option String :=
  let most := params.length
  let least := most - spare
  let subject := method ++ "() "
  if given < least then
    let missing := (params.take least).drop given
    some (subject ++ "missing " ++ toString missing.length ++ " required positional argument" ++
      (if missing.length = 1 then "" else "s") ++ ": " ++ enumerate missing)
  else if most < given then
    some (subject ++ "takes " ++
      (if spare = 0 then toString (most + 1)
        else "from " ++ toString (least + 1) ++ " to " ++ toString (most + 1)) ++
      " positional argument" ++ (if most + 1 = 1 then "" else "s") ++ " but " ++ toString (given + 1) ++
      (if given = 0 then " was" else " were") ++ " given")
  else none

end Stepwise.Arity
