import Stepwise.Number.Numeral

/-!
Calls of capabilities, as a plan writes them. An argument is a literal text or a reference to the
output of an earlier step of the same run.
-/

namespace Stepwise

/-- An argument of a call; a `reference` stands for the output with that index. -/
inductive Argument
  | literal (s : String)
  | reference (index : Nat)
  deriving DecidableEq, Repr, Inhabited

/-- A call of `function` in the name space `space`. -/
structure Call where
  space : String
  function : String
  args : List Argument
  deriving DecidableEq, Repr, Inhabited

/-- The name space that capabilities live in unless another is chosen. -/
def defaultSpace : String := "base_function"

namespace Call

/-- Stands in front of each argument in tagged notation. -/
def marker : String := "@@ai-arg@@"

/-- The name under which a plan refers to earlier outputs. -/
def outputsName : String := "outputList"

/-- Why a text is not a call. An overlong index is the only fault of an argument. -/
inductive Refusal
  | notText
  | noOpening
  | noClosing
  | noName
  | overlong (o : Overlong)
  deriving DecidableEq, Repr

/-- The reason in words. -/
def Refusal.message : Refusal → String
  | notText => "call expression must be a string"
  | noOpening => "missing '('"
  | noClosing => "missing closing ')'"
  | noName => "missing function name"
  | overlong o => o.message

end Call

end Stepwise
