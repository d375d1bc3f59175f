import Stepwise.Text.Lines

/-!
Reports on values that do not have the shape of what they should describe. A report names its
subject and lists each problem with the path of the member it is about.
-/

namespace Stepwise

/-- What is wrong with one member. -/
inductive Problem
  | missing
  | notText
  | tooShort
  | notList
  | extraMember
  | notAllowed
  | notObject
  | unreadable
  | notInteger
  | unreadableInteger
  | oversizedInteger
  | fractional
  | notFinite
  | notNumber
  | unreadableNumber
  | notFlag
  | unreadableFlag
  | notGreater
  | notAtLeast
  | notLess
  | notAtMost
  deriving DecidableEq, Repr

/-- The code word of a problem. -/
def Problem.code : Problem → String
  | missing => "missing"
  | notText => "string_type"
  | tooShort => "string_too_short"
  | notList => "list_type"
  | extraMember => "extra_forbidden"
  | notAllowed => "literal_error"
  | notObject => "model_type"
  | unreadable => "value_error"
  | notInteger => "int_type"
  | unreadableInteger => "int_parsing"
  | oversizedInteger => "int_parsing_size"
  | fractional => "int_from_float"
  | notFinite => "finite_number"
  | notNumber => "float_type"
  | unreadableNumber => "float_parsing"
  | notFlag => "bool_type"
  | unreadableFlag => "bool_parsing"
  | notGreater => "greater_than"
  | notAtLeast => "greater_than_equal"
  | notLess => "less_than"
  | notAtMost => "less_than_equal"

/-- A problem and where it is. -/
structure Issue where
  path : List String
  problem : Problem
  deriving DecidableEq, Repr

/-- All problems of one subject. -/
structure Report where
  subject : String
  issues : List Issue
  deriving DecidableEq, Repr

/-- The headline of a report. -/
def Report.headline (r : Report) : String :=
  toString r.issues.length ++ " validation error" ++ (if r.issues.length = 1 then "" else "s") ++
    " for " ++ r.subject

/-- A report in words: the headline, and for each issue its place and its kind on lines of their
own. -/
def Report.message (r : Report) : String :=
  r.headline ++ String.join (r.issues.map fun i =>
    "\n" ++ Text.joinText "." i.path ++ "\n  [type=" ++ i.problem.code ++ "]")

/-- A report of one problem. -/
def Report.one (subject : String) (path : List String) (problem : Problem) : Report :=
  ⟨subject, [⟨path, problem⟩]⟩

end Stepwise
