import Stepwise.Shell.Integer
import Stepwise.Shell.Machine

/-!
The conditions that `test` answers: questions about texts, numbers and files, joined by words. A text
of its own holds if it is not empty.
-/

namespace Stepwise.Shell.Condition

open Run

/-- What an argument may be, apart from an operand. -/
inductive Role
  | unary
  | binary
  | negation
  | conjunction
  | disjunction
  | opening
  | closing
  deriving DecidableEq

/-- The role of an argument by itself. -/
def role? (s : String) : Option Role :=
  if s = "!" then some .negation
  else if s = "-a" then some .conjunction
  else if s = "-o" then some .disjunction
  else if s = "(" then some .opening
  else if s = ")" then some .closing
  else if ["=", "!=", "<", ">", "-eq", "-ne", "-lt", "-le", "-gt", "-ge", "-nt", "-ot", "-ef"].contains s then
    some .binary
  else if ["-r", "-w", "-x", "-e", "-f", "-d", "-c", "-b", "-p", "-u", "-g", "-k", "-s", "-t", "-z", "-n",
      "-h", "-O", "-G", "-L", "-S"].contains s then some .unary
  else none

/-- The role of the first of some arguments: an operand may look like an operator. -/
def leading? (args : List String) : Option Role :=
  match args with
  | [] => none
  | s :: rest =>
    let role := role? s
    let isOperand := match rest with
      | [] => true
      | [_] => false
      | t :: _ => role? t == some .binary
    if (role = some .unary && isOperand) || (role = some .opening && rest.isEmpty) then none else role

/-- The place of a path, if there is anything. -/
def placeOf? (path : String) : Run (Option Place) := do
  let p ← locate path
  match ← ask fun t => t.spot true p with
  | .ok s => pure (s.node.map fun _ => s.place)
  | .error _ => pure none

/-- The answer to a question about a path. -/
def question (op path : String) : Run Bool := do
  let p ← locate path
  let node := (← ask fun t => t.status (op != "-h" && op != "-L") p).toOption
  let node := if path.isEmpty then none else node
  let device := (device? p).isSome
  pure <|
    match node with
    | none => device && ["-e", "-r", "-w", "-c", "-O", "-G"].contains op
    | some n =>
      if ["-e", "-r", "-w", "-O", "-G"].contains op then true
      else match n with
        | .directory => op == "-d" || op == "-x" || op == "-s"
        | .file bs => op == "-f" || (op == "-s" && !bs.isEmpty)
        | .link _ => op == "-h" || op == "-L"

/-- Whether a file may be carried out as a program. -/
def isProgram (path : String) : Run Bool := do
  match ← placeOf? path with
  | some place => return (← get).programs.any fun p => p.parts == place
  | none => pure false

/-- The answer of an operator before its operand. -/
def unary (op s : String) : Run Bool := do
  if op = "-n" then pure !s.isEmpty
  else if op = "-z" then pure s.isEmpty
  else if op = "-t" then
    let _ ← Run.count s
    pure false
  else if op = "-x" then return (← question op s) || (← isProgram s)
  else question op s

/-- The number that an operand is. -/
def number (s : String) : Run Int := do
  match integer? false s with
  | some i => pure i
  | none => fail ("Illegal number: " ++ s)

/-- The answer of an operator between two operands. -/
def binary (op a b : String) : Run Bool := do
  if op = "=" then pure (a == b)
  else if op = "!=" then pure (a != b)
  else if op = "<" then pure (decide (a < b))
  else if op = ">" then pure (decide (b < a))
  else if op = "-nt" ∨ op = "-ot" then
    match ← placeOf? a, ← placeOf? b with
    | some x, some y => do
      let x ← timeAt x
      let y ← timeAt y
      pure (decide (if op = "-nt" then y < x else x < y))
    | _, _ => pure false
  else if op = "-ef" then
    match ← placeOf? a, ← placeOf? b with
    | some x, some y => return x == y || (← twinsOf x).contains y
    | _, _ => pure false
  else
    let x ← number a
    let y ← number b
    pure <|
      if op = "-eq" then x == y
      else if op = "-ne" then x != y
      else if op = "-lt" then decide (x < y)
      else if op = "-le" then decide (x ≤ y)
      else if op = "-gt" then decide (y < x)
      else decide (y ≤ x)

/-- An answer, and the arguments after it. -/
abbrev Answer := Run (Bool × List String)

mutual

/-- Conditions of which one has to hold. -/
def disjunction : Nat → Option Role → List String → Answer
  | 0, _, args => pure (false, args)
  | n + 1, role, args => do
    let (a, rest) ← conjunction n role args
    match leading? rest with
    | some .disjunction =>
      let (b, rest) ← disjunction n (leading? (rest.drop 1)) (rest.drop 1)
      pure (a || b, rest)
    | _ => pure (a, rest)

/-- Conditions that all have to hold. -/
def conjunction : Nat → Option Role → List String → Answer
  | 0, _, args => pure (false, args)
  | n + 1, role, args => do
    let (a, rest) ← negation n role args
    match leading? rest with
    | some .conjunction =>
      let (b, rest) ← conjunction n (leading? (rest.drop 1)) (rest.drop 1)
      pure (a && b, rest)
    | _ => pure (a, rest)

/-- A condition, perhaps negated. -/
def negation : Nat → Option Role → List String → Answer
  | 0, _, args => pure (false, args)
  | n + 1, role, args => do
    if role = some .negation then
      let (a, rest) ← negation n (leading? (args.drop 1)) (args.drop 1)
      pure (!a, rest)
    else primary n role args

/-- A single condition; the first argument has the role that is given. -/
def primary : Nat → Option Role → List String → Answer
  | 0, _, args => pure (false, args)
  | n + 1, role, args => do
    match args with
    | [] => pure (false, [])
    | first :: rest =>
      if role = some .opening then
        if leading? rest = some .closing then pure (false, rest)
        else
          let (a, rest) ← disjunction n (leading? rest) rest
          if leading? rest = some .closing then pure (a, rest.drop 1)
          else fail "closing paren expected"
      else if role = some .unary then
        match rest with
        | [] => fail (first ++ ": argument expected")
        | s :: rest => return (← unary first s, rest)
      else
        match rest with
        | op :: more =>
          if leading? rest = some .binary then
            match more with
            | [] => fail (op ++ ": argument expected")
            | b :: rest => return (← binary op first b, rest)
          else pure (!first.isEmpty, rest)
        | [] => pure (!first.isEmpty, [])

end

/-- The answer to all arguments, the first having the role that is given. -/
def whole (role : Option Role) (args : List String) : Run Bool := do
  let (a, rest) ← disjunction (2 * args.length + 8) role args
  if rest.isEmpty then pure a
  else fail (args.getD (args.length - rest.length - 1) "" ++ ": unexpected operator")

/-- The answer to arguments; few of them are told apart by their number. -/
def answer : List String → Run Bool
  | [] => pure false
  | [a] => whole (leading? [a]) [a]
  | ["!", a] => return !(← whole (leading? [a]) [a])
  | [a, b] => whole (leading? [a, b]) [a, b]
  | [a, b, c] =>
    if role? b = some .binary then whole none [a, b, c]
    else if a = "(" ∧ c = ")" then whole (leading? [b]) [b]
    else if a = "!" then do return !(← answerTwo b c)
    else whole (leading? [a, b, c]) [a, b, c]
  | [a, b, c, d] =>
    if a = "(" ∧ d = ")" then whole (leading? [b, c]) [b, c]
    else if a = "!" then do
      if role? c = some .binary then return !(← whole none [b, c, d])
      else if b = "(" ∧ d = ")" then return !(← whole (leading? [c]) [c])
      else if b = "!" then answerTwo c d
      else return !(← whole (leading? [b, c, d]) [b, c, d])
    else whole (leading? [a, b, c, d]) [a, b, c, d]
  | args => whole (leading? args) args
where
  /-- The answer to two arguments. -/
  answerTwo (a b : String) : Run Bool := whole (leading? [a, b]) [a, b]

end Stepwise.Shell.Condition
