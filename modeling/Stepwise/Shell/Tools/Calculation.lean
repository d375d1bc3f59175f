import Stepwise.Shell.Tools.Search

/-!
Calculating with arguments: `expr`. Texts that look like integers are integers; zero and the empty text
count as false.
-/

namespace Stepwise.Shell.Tools

open Run

namespace Calculation

/-- Why arguments cannot be calculated with, and the status that tells so. -/
structure Flaw where
  text : String
  status : Nat

/-- A value, and the arguments after it. -/
abbrev Outcome := Except Flaw (String × List String)

/-- The integer that a text is. -/
def integer? (s : String) : Option Int :=
  let (negative, ds) := match s.toList with
    | '-' :: ds => (true, ds)
    | ds => (false, ds)
  if !ds.isEmpty && ds.all Char.isDigit then
    (String.ofList ds).toNat?.map fun n => if negative then -(n : Int) else n
  else none

/-- Whether a value counts as false. -/
def isNull (s : String) : Bool := s.isEmpty || integer? s == some 0

/-- The complaint about the grammar. -/
def misplaced {α : Type} (s : String) : Except Flaw α := .error ⟨"syntax error: " ++ s, 2⟩

/-- What a text has in common with the beginning of an expression: the part in a group, or the number
of characters. -/
def likeness (s pattern : String) : Except Flaw String :=
  match Regex.read .calculating (Letters.ofBytes pattern.toList) with
  | .error e => .error ⟨e.message, 2⟩
  | .ok ⟨r, _, _⟩ =>
    let t := Regex.Subject.of (Letters.ofBytes s.toList) false
    let found := Regex.longest (r.waysFrom t 0)
    .ok <| match found with
      | none => if r.groups = 0 then "0" else ""
      | some e =>
        if r.groups = 0 then toString e.position
        else String.ofList (Letters.toBytes ((e.group? 1).elim [] fun g => t.slice g.1 g.2))

/-- The answer as a number. -/
def truth (b : Bool) : String := if b then "1" else "0"

/-- The order of two values, as integers if both are. -/
def compared (op a b : String) : String :=
  let o := match integer? a, integer? b with
    | some x, some y => compare x y
    | _, _ => if a = b then .eq else if a < b then .lt else .gt
  truth <|
    if op = "<" then o == .lt
    else if op = "<=" then o != .gt
    else if op = "=" ∨ op = "==" then o == .eq
    else if op = "!=" then o != .eq
    else if op = ">=" then o != .lt
    else o == .gt

/-- The result of an operator between integers. -/
def arithmetic (op a b : String) : Except Flaw String :=
  match integer? a, integer? b with
  | some x, some y =>
    if op = "+" then .ok (toString (x + y))
    else if op = "-" then .ok (toString (x - y))
    else if op = "*" then .ok (toString (x * y))
    else if y = 0 then .error ⟨"division by zero", 2⟩
    else if op = "/" then .ok (toString (x.tdiv y))
    else .ok (toString (x.tmod y))
  | _, _ => .error ⟨"non-integer argument", 2⟩

/-- The operators between values, those that bind least first. -/
def levels : List (List String) :=
  [["|"], ["&"], ["<", "<=", "=", "==", "!=", ">=", ">"], ["+", "-"], ["*", "/", "%"], [":"]]

/-- The result of an operator. -/
def operate (op a b : String) : Except Flaw String :=
  if op = "|" then .ok (if !isNull a then a else if isNull b then "0" else b)
  else if op = "&" then .ok (if isNull a || isNull b then "0" else a)
  else if op = ":" then likeness a b
  else if ["+", "-", "*", "/", "%"].contains op then arithmetic op a b
  else .ok (compared op a b)

mutual

/-- A value made of operators from a level on. -/
def level : Nat → Nat → String → List String → Outcome
  | 0, _, _, args => .ok ("", args)
  | n + 1, k, last, args =>
    match levels[k]? with
    | none => operand n last args
    | some ops => do
      let (a, rest) ← level n (k + 1) last args
      further n k ops a last args.length rest

/-- Values after one of the same level. -/
def further : Nat → Nat → List String → String → String → Nat → List String → Outcome
  | 0, _, _, a, _, _, args => .ok (a, args)
  | n + 1, k, ops, a, last, count, args =>
    match args with
    | op :: rest =>
      if ops.contains op then do
        let (b, rest) ← level n (k + 1) op rest
        let v ← operate op a b
        further n k ops v last count rest
      else .ok (a, args)
    | [] => .ok (a, [])

/-- A single value. -/
def operand : Nat → String → List String → Outcome
  | 0, _, args => .ok ("", args)
  | n + 1, last, args =>
    match args with
    | [] => misplaced ("missing argument after " ++ named last)
    | "(" :: rest => do
      let (a, after) ← level n 0 "(" rest
      match after with
      | ")" :: after => pure (a, after)
      | [] => misplaced ("expecting ')' after " ++ named ((args.getLast?).getD ""))
      | b :: _ => misplaced ("expecting ')' instead of " ++ named b)
    | ")" :: _ => misplaced "unexpected ')'"
    | "+" :: a :: rest => .ok (a, rest)
    | "length" :: rest => do
      let (a, rest) ← operand n "length" rest
      pure (toString (Letters.ofBytes a.toList).length, rest)
    | "match" :: rest => do
      let (a, rest) ← operand n "match" rest
      let (b, rest) ← operand n a rest
      return (← likeness a b, rest)
    | "index" :: rest => do
      let (a, rest) ← operand n "index" rest
      let (b, rest) ← operand n a rest
      let found := (Letters.ofBytes a.toList).findIdx? (Letters.ofBytes b.toList).contains
      pure (toString (found.elim 0 (· + 1)), rest)
    | "substr" :: rest => do
      let (a, rest) ← operand n "substr" rest
      let (i, rest) ← operand n a rest
      let (m, rest) ← operand n i rest
      let letters := Letters.ofBytes a.toList
      match integer? i, integer? m with
      | some i, some m =>
        if i ≤ 0 ∨ m ≤ 0 then pure ("", rest)
        else pure (String.ofList (Letters.toBytes ((letters.drop (i.toNat - 1)).take m.toNat)), rest)
      | _, _ => pure ("", rest)
    | a :: rest => .ok (a, rest)

end

end Calculation

def expr (args : List String) : Run Nat := do
  let args := match args with
    | "--" :: rest => rest
    | args => args
  if args.isEmpty then fault "expr" ("missing operand" ++ hint "expr") 2
  else
    match Calculation.level (16 * args.length + 16) 0 "" args with
    | .error e => fault "expr" e.text e.status
    | .ok (_, extra :: _) => fault "expr" ("syntax error: unexpected argument " ++ named extra) 2
    | .ok (v, []) =>
      write 1 (v ++ "\n")
      pure (if Calculation.isNull v then 1 else 0)

end Stepwise.Shell.Tools
