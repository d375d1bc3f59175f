import Stepwise.Shell.Integer
import Stepwise.Shell.Machine
import Stepwise.Shell.Token

/-!
Arithmetic of the shell on numbers of 64 bits. Operators bind as usual; a variable without a value
stands for zero, and assignments are values. What a condition leaves out is read, but not carried out.
-/

namespace Stepwise.Shell.Arithmetic

open Run

/-- The operators between two operands, with how tightly they bind; longer ones first. -/
def operators : List (String × Nat) :=
  [("<<", 5), (">>", 5), ("<=", 4), (">=", 4), ("==", 3), ("!=", 3), ("*", 7), ("/", 7), ("%", 7),
    ("+", 6), ("-", 6), ("<", 4), (">", 4), ("&", 2), ("^", 1), ("|", 0)]

/-- The operators that may stand before the sign of an assignment. -/
def assigning : List String := ["<<", ">>", "*", "/", "%", "+", "-", "&", "^", "|", ""]

/-- A truth value as a number. -/
def truth (b : Bool) : Int64 := if b then 1 else 0

/-- Blanks skipped. -/
def skip (cs : List Char) : List Char := cs.dropWhile fun c => c == ' ' || c == '\t' || c == '\n'

/-- What follows a text, if another begins with it. -/
def after? (s : String) (cs : List Char) : Option (List Char) :=
  if s.toList.isPrefixOf cs then some (cs.drop s.length) else none

/-- The operator of an assignment, and what follows it. -/
def assignment? (cs : List Char) : Option (String × List Char) :=
  assigning.findSome? fun o =>
    match after? (o ++ "=") cs with
    | some rest => if o.isEmpty && rest.head? == some '=' then none else some (o, rest)
    | none => none

/-- The operator at the beginning that binds at least as tightly as wanted. -/
def operator? (least : Nat) (cs : List Char) : Option ((String × Nat) × List Char) :=
  match operators.find? fun o => o.1.toList.isPrefixOf cs with
  | some o =>
    let rest := cs.drop o.1.length
    let isOther := (o.1 == "&" && rest.head? == some '&') || (o.1 == "|" && rest.head? == some '|') ||
      (rest.head? == some '=' && assigning.contains o.1)
    if least ≤ o.2 && !isOther then some (o, rest) else none
  | none => none

section

variable (whole : String)

/-- Complains about the expression. -/
def flaw {α : Type} (s : String) : Run α :=
  fail ("arithmetic expression: " ++ s ++ ": \"" ++ whole ++ "\"")

/-- The value of an operator. -/
def apply (op : String) (a b : Int64) : Run Int64 := do
  if (op = "/" ∨ op = "%") ∧ b = 0 then flaw whole "division by zero"
  else pure <|
    if op = "+" then a + b
    else if op = "-" then a - b
    else if op = "*" then a * b
    else if op = "/" then a / b
    else if op = "%" then a % b
    else if op = "<<" then a <<< b
    else if op = ">>" then a >>> b
    else if op = "<" then truth (decide (a < b))
    else if op = ">" then truth (decide (b < a))
    else if op = "<=" then truth (decide (a ≤ b))
    else if op = ">=" then truth (decide (b ≤ a))
    else if op = "==" then truth (a == b)
    else if op = "!=" then truth (a != b)
    else if op = "&" then a &&& b
    else if op = "|" then a ||| b
    else if op = "^" then a ^^^ b
    else b

/-- The number that a variable holds. -/
def numberIn (name : String) : Run Int64 := do
  let s := (← valueOf? name).getD ""
  match integer? true s with
  | some i => pure (Int64.ofInt i)
  | none => fail ("Illegal number: " ++ s)

mutual

/-- An operand. `idle` tells that it is not carried out. -/
def operand : Nat → Bool → List Char → Run (Int64 × List Char)
  | 0, _, _ => flaw whole "expecting primary"
  | n + 1, idle, cs => do
    match skip cs with
    | '(' :: rest =>
      let (v, rest) ← assignment n idle rest
      match skip rest with
      | ')' :: rest => pure (v, rest)
      | _ => flaw whole "expecting ')'"
    | '-' :: rest =>
      let (v, rest) ← operand n idle rest
      pure (-v, rest)
    | '+' :: rest => operand n idle rest
    | '!' :: rest =>
      let (v, rest) ← operand n idle rest
      pure (truth (v == 0), rest)
    | '~' :: rest =>
      let (v, rest) ← operand n idle rest
      pure (~~~v, rest)
    | c :: rest =>
      if c.isDigit then
        let r := readInteger true (c :: rest)
        pure (Int64.ofInt (clamped r.value), r.rest)
      else
        let name := (c :: rest).takeWhile isNameChar
        if name.isEmpty then flaw whole "expecting primary"
        else
          let v ← if idle then pure 0 else numberIn (String.ofList name)
          pure (v, (c :: rest).drop name.length)
    | [] => flaw whole "expecting primary"
termination_by structural n => n

/-- Operands and operators that bind tightly enough, after a first operand if there is one. -/
def operation : Nat → Bool → Nat → Option Int64 → List Char → Run (Int64 × List Char)
  | 0, _, _, _, _ => flaw whole "expecting primary"
  | n + 1, idle, least, first, cs => do
    match first with
    | none =>
      let (v, rest) ← operand n idle cs
      operation n idle least (some v) rest
    | some v =>
      match operator? least (skip cs) with
      | none => pure (v, cs)
      | some (o, rest) =>
        let (w, rest) ← operation n idle (o.2 + 1) none rest
        let u ← if idle then pure w else apply whole o.1 v w
        operation n idle least (some u) rest
termination_by structural n => n

/-- Conditions that all have to hold. -/
def conjunction : Nat → Bool → List Char → Run (Int64 × List Char)
  | 0, _, _ => flaw whole "expecting primary"
  | n + 1, idle, cs => do
    let (v, rest) ← operation n idle 0 none cs
    match after? "&&" (skip rest) with
    | none => pure (v, rest)
    | some rest =>
      let (w, rest) ← conjunction n (idle || v == 0) rest
      pure (truth (v != 0 && w != 0), rest)
termination_by structural n => n

/-- Conditions of which one has to hold. -/
def disjunction : Nat → Bool → List Char → Run (Int64 × List Char)
  | 0, _, _ => flaw whole "expecting primary"
  | n + 1, idle, cs => do
    let (v, rest) ← conjunction n idle cs
    match after? "||" (skip rest) with
    | none => pure (v, rest)
    | some rest =>
      let (w, rest) ← disjunction n (idle || v != 0) rest
      pure (truth (v != 0 || w != 0), rest)
termination_by structural n => n

/-- A choice between two values. -/
def choice : Nat → Bool → List Char → Run (Int64 × List Char)
  | 0, _, _ => flaw whole "expecting primary"
  | n + 1, idle, cs => do
    let (v, rest) ← disjunction n idle cs
    match skip rest with
    | '?' :: rest =>
      let (a, rest) ← assignment n (idle || v == 0) rest
      match skip rest with
      | ':' :: rest =>
        let (b, rest) ← choice n (idle || v != 0) rest
        pure (if v != 0 then a else b, rest)
      | _ => flaw whole "expecting ':'"
    | _ => pure (v, rest)
termination_by structural n => n

/-- An assignment, or a value. -/
def assignment : Nat → Bool → List Char → Run (Int64 × List Char)
  | 0, _, _ => flaw whole "expecting primary"
  | n + 1, idle, cs => do
    let name := (skip cs).takeWhile isNameChar
    let found := if name.head?.any isNameStart then assignment? (skip ((skip cs).drop name.length)) else none
    match found with
    | none => choice n idle cs
    | some (op, rest) =>
      let (w, rest) ← assignment n idle rest
      if idle then pure (w, rest)
      else
        let name := String.ofList name
        let v ← if op.isEmpty then pure w else apply whole op (← numberIn name) w
        Run.assign name (toString v.toInt)
        pure (v, rest)
termination_by structural n => n

end

end

/-- The value of an expression. -/
def evaluate (s : String) : Run Int64 := do
  let (v, rest) ← assignment s (8 * s.length + 8) false s.toList
  if (skip rest).isEmpty then pure v else flaw s "expecting EOF"

end Stepwise.Shell.Arithmetic
