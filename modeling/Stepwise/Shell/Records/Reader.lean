import Stepwise.Shell.Records.Pattern
import Stepwise.Shell.Records.Script
import Stepwise.Shell.Records.Token

/-!
Reading scripts that work on records.
-/

namespace Stepwise.Shell.Records

/-- How far reading has come: the signs left, how many parentheses and braces are open, whether a loop or
a function or a rule for records is being read, and the functions of the script. -/
structure Progress where
  rest : List Spelled
  parentheses : Nat
  braces : Nat
  loops : Nat
  within : Bool
  rule : Bool
  functions : List String

/-- Reading a part of a script. -/
abbrev Reader := StateT Progress (Except Flaw)

namespace Reader

/-- The sign that comes next. -/
def peek : Reader Token := do return ((← get).rest.headD default).token

/-- The sign after that. -/
def peekAfter : Reader Token := do return (((← get).rest.drop 1).headD ⟨.finish, "", 0⟩).token

/-- Goes past the sign that comes next. -/
def skip : Reader Unit :=
  modify fun p =>
    let count := fun (opening closing : String) (n : Nat) =>
      match p.rest.head?.map fun (s : Spelled) => s.token with
      | some (.sign s) => if s = opening then n + 1 else if s = closing then n - 1 else n
      | _ => n
    { p with rest := p.rest.drop 1, parentheses := count "(" ")" p.parentheses, braces := count "\x7b" "\x7d" p.braces }

/-- Complains about the line that is read. -/
def fail {α : Type} (message : String) : Reader α := do
  throw ⟨((← get).rest.headD default).line, message, true⟩

/-- Complains about the sign that comes next. -/
def unexpected {α : Type} : Reader α := do
  let p ← get
  let s := p.rest.headD default
  if s.token = .sign "\x7d" ∧ p.braces = 0 then
    let after := (p.rest.drop 1).headD s
    throw ⟨s.line, "extra '\x7d'\n" ++ "awk: line " ++ toString s.line ++ ": syntax error at or near " ++
      after.spelling, true⟩
  else if 0 < p.parentheses then fail ("missing ) near " ++ s.spelling)
  else if s.token = .finish ∧ 0 < p.braces then fail "missing \x7d near end of file"
  else fail ("syntax error at or near " ++ s.spelling)

/-- Goes past a sign if it comes next. -/
def accept (s : String) : Reader Bool := do
  if (← peek) = .sign s then
    skip
    return true
  else return false

/-- Goes past a sign, which has to come next. -/
def expect (s : String) : Reader Unit := do
  if ← accept s then pure () else unexpected

/-- Goes past ends of lines, at most `n` of them. -/
def lines : Nat → Reader Unit
  | 0 => pure ()
  | n + 1 => do
    if (← peek) = .line then
      skip
      lines n

/-- Goes past all ends of lines. -/
def allLines : Reader Unit := do lines (← get).rest.length

/-- The regular expression that a pattern is. -/
def pattern (cs : List Char) : Reader Regex := do
  match Pattern.read cs with
  | .ok r => return r
  | .error e => fail ("regular expression compile failed (" ++ e.message ++ ")\n" ++ String.ofList cs)

/-- The least and the most arguments of the functions of the language. -/
def arity (name : String) : Nat × Nat :=
  if ["substr", "split", "sub", "gsub"].contains name then (if name = "split" then (2, 3) else (2, 3))
  else if ["index", "match", "atan2"].contains name then (2, 2)
  else if name = "length" ∨ name = "srand" ∨ name = "fflush" then (0, 1)
  else if name = "rand" ∨ name = "systime" then (0, 0)
  else if name = "sprintf" then (1, 1000)
  else if name = "strftime" then (0, 3)
  else (1, 1)

/-- The operation of an assignment. -/
def assignment? : Token → Option (Option Arith)
  | .sign "=" => some none
  | .sign "+=" => some (some .add)
  | .sign "-=" => some (some .sub)
  | .sign "*=" => some (some .mul)
  | .sign "/=" => some (some .div)
  | .sign "%=" => some (some .rem)
  | .sign "^=" => some (some .pow)
  | _ => none

/-- The comparison that a sign is; where output may follow, a sign for more is not one. -/
def relation? (output : Bool) : Token → Option Relation
  | .sign "<" => some .less
  | .sign "<=" => some .atMost
  | .sign "==" => some .equal
  | .sign "!=" => some .unequal
  | .sign ">" => if output then none else some .more
  | .sign ">=" => some .atLeast
  | _ => none

/-- Whether a sign can begin an expression that is joined to the one before. -/
def beginsJoined : Token → Bool
  | .number _ => true
  | .text _ => true
  | .pattern _ => true
  | .name _ => true
  | .called _ => true
  | .function _ => true
  | .sign s => s = "(" || s = "$" || s = "++" || s = "--" || s = "!"
  | _ => false

/-- Whether a sign can begin what a line is read into. -/
def beginsTarget : Token → Bool
  | .name _ => true
  | .sign s => s = "$"
  | _ => false

mutual

/-- A choice, or anything that binds more tightly. `output` tells that a sign for more leads output
somewhere. -/
def expression : Nat → Bool → Reader Expr
  | 0, _ => unexpected
  | n + 1, output => do
    let c ← disjunction n output
    if ← accept "?" then
      allLines
      let a ← expression n output
      allLines
      expect ":"
      allLines
      let b ← expression n output
      return .choice c a b
    else return c

def disjunction : Nat → Bool → Reader Expr
  | 0, _ => unexpected
  | n + 1, output => do
    let a ← conjunction n output
    if ← accept "||" then
      allLines
      return .either a (← disjunction n output)
    else return a

def conjunction : Nat → Bool → Reader Expr
  | 0, _ => unexpected
  | n + 1, output => do
    let a ← membership n output
    if ← accept "&&" then
      allLines
      return .both a (← conjunction n output)
    else return a

def membership : Nat → Bool → Reader Expr
  | 0, _ => unexpected
  | n + 1, output => do
    let a ← fit n output
    memberships n a

/-- Questions whether what was read is a key of tables. -/
def memberships : Nat → Expr → Reader Expr
  | 0, e => pure e
  | n + 1, e => do
    if (← peek) = .keyword "in" then
      skip
      match ← peek with
      | .name t =>
        skip
        memberships n (.within (.cons e .nil) t)
      | _ => unexpected
    else return e

def fit : Nat → Bool → Reader Expr
  | 0, _ => unexpected
  | n + 1, output => do
    let a ← relation n output
    fits n output a

def fits : Nat → Bool → Expr → Reader Expr
  | 0, _, e => pure e
  | n + 1, output, e => do
    if ← accept "~" then fits n output (.fits true e (← relation n output))
    else if ← accept "!~" then fits n output (.fits false e (← relation n output))
    else return e

def relation : Nat → Bool → Reader Expr
  | 0, _ => unexpected
  | n + 1, output => do
    let a ← joined n output
    relations n output a

def relations : Nat → Bool → Expr → Reader Expr
  | 0, _, e => pure e
  | n + 1, output, e => do
    match relation? output (← peek) with
    | some r =>
      skip
      relations n output (.relation r e (← joined n output))
    | none => return e

def joined : Nat → Bool → Reader Expr
  | 0, _ => unexpected
  | n + 1, output => do
    let a ← sum n output
    joineds n output a

def joineds : Nat → Bool → Expr → Reader Expr
  | 0, _, e => pure e
  | n + 1, output, e => do
    if beginsJoined (← peek) then joineds n output (.join e (← sum n output)) else return e

def sum : Nat → Bool → Reader Expr
  | 0, _ => unexpected
  | n + 1, output => do
    let a ← product n output
    sums n output a

/-- Terms that are added to what was read, and commands whose lines are read. -/
def sums : Nat → Bool → Expr → Reader Expr
  | 0, _, e => pure e
  | n + 1, output, e => do
    if ← accept "+" then sums n output (.arith .add e (← product n output))
    else if ← accept "-" then sums n output (.arith .sub e (← product n output))
    else if (← peek) = .sign "|" ∧ (← peekAfter) = .keyword "getline" then
      skip
      skip
      sums n output (.nextOf true e (← target? n))
    else return e

def product : Nat → Bool → Reader Expr
  | 0, _ => unexpected
  | n + 1, output => do
    let a ← signed n output
    products n output a

def products : Nat → Bool → Expr → Reader Expr
  | 0, _, e => pure e
  | n + 1, output, e => do
    if ← accept "*" then products n output (.arith .mul e (← signed n output))
    else if ← accept "/" then products n output (.arith .div e (← signed n output))
    else if ← accept "%" then products n output (.arith .rem e (← signed n output))
    else return e

def signed : Nat → Bool → Reader Expr
  | 0, _ => unexpected
  | n + 1, output => do
    if ← accept "-" then return .sign true (← signed n output)
    else if ← accept "+" then return .sign false (← signed n output)
    else if ← accept "!" then return .not (← signed n output)
    else power n output

def power : Nat → Bool → Reader Expr
  | 0, _ => unexpected
  | n + 1, output => do
    let a ← stepped n output
    if ← accept "^" then
      if ← accept "-" then return .arith .pow a (.sign true (← power n output))
      else if ← accept "+" then return .arith .pow a (← power n output)
      else if ← accept "!" then return .arith .pow a (.not (← power n output))
      else return .arith .pow a (← power n output)
    else return a

/-- Something simple, perhaps stepped or assigned to. -/
def stepped : Nat → Bool → Reader Expr
  | 0, _ => unexpected
  | n + 1, output => do
    let e ← simple n
    if e.isTarget then
      match assignment? (← peek) with
      | some op =>
        skip
        allLines
        return .assign op e (← expression n output)
      | none =>
        if ← accept "++" then return .step false true e
        else if ← accept "--" then return .step false false e
        else return e
    else return e

/-- Something simple. -/
def simple : Nat → Reader Expr
  | 0 => unexpected
  | n + 1 => do
    match ← peek with
    | .number x =>
      skip
      return .number x
    | .text s =>
      skip
      return .text s
    | .pattern cs =>
      skip
      return .pattern (← pattern cs)
    | .name s =>
      skip
      if ← accept "[" then
        let keys ← expressions n
        expect "]"
        return .item s (.ofList keys)
      else if (← peek) = .sign "(" ∧ (← get).functions.contains s then
        return .call s (.ofList (← arguments n))
      else return .named s
    | .called s =>
      skip
      return .call s (.ofList (← arguments n))
    | .function s =>
      skip
      if s = "length" ∧ (← peek) ≠ .sign "(" then return .apply s .nil
      else
        let args ← arguments n
        let (least, most) := arity s
        if args.isEmpty && 0 < least && s = "sprintf" then fail ("no arguments in call to " ++ s)
        else if args.length < least ∨ most < args.length then fail ("wrong number of arguments in call to " ++ s)
        else return .apply s (.ofList args)
    | .keyword "getline" =>
      skip
      let target ← target? n
      if ← accept "<" then return .nextOf false (← steppedOnly n) target
      else return .next target
    | .sign "$" =>
      skip
      if ← accept "++" then return .field (.step true true (← simple n))
      else if ← accept "--" then return .field (.step true false (← simple n))
      else if ← accept "-" then return .field (.sign true (← simple n))
      else if ← accept "+" then return .field (.sign false (← simple n))
      else if ← accept "!" then return .field (.not (← simple n))
      else return .field (← simple n)
    | .sign "++" =>
      skip
      unless beginsTarget (← peek) do unexpected
      let e ← simple n
      if e.isTarget then return .step true true e else unexpected
    | .sign "--" =>
      skip
      unless beginsTarget (← peek) do unexpected
      let e ← simple n
      if e.isTarget then return .step true false e else unexpected
    | .sign "-" =>
      skip
      return .sign true (← power n false)
    | .sign "+" =>
      skip
      return .sign false (← power n false)
    | .sign "!" =>
      skip
      return .not (← power n false)
    | .sign "(" =>
      skip
      allLines
      let es ← expressions n
      allLines
      expect ")"
      match es with
      | [e] => return .inner e
      | es =>
        if (← peek) = .keyword "in" then
          skip
          match ← peek with
          | .name t =>
            skip
            return .within (.ofList es) t
          | _ => unexpected
        else unexpected
    | _ => unexpected

/-- Something simple that is not assigned to. -/
def steppedOnly : Nat → Reader Expr
  | 0 => unexpected
  | n + 1 => do
    let e ← simple n
    if e.isTarget then
      if ← accept "++" then return .step false true e
      else if ← accept "--" then return .step false false e
      else return e
    else return e

/-- What a line is read into, if it is told. -/
def target? : Nat → Reader (Option Expr)
  | 0 => unexpected
  | n + 1 => do
    if beginsTarget (← peek) then return some (← simple n) else return none

/-- Expressions with commas between them, at least one. -/
def expressions : Nat → Reader (List Expr)
  | 0 => unexpected
  | n + 1 => do
    let e ← expression n false
    if ← accept "," then
      allLines
      return e :: (← expressions n)
    else return [e]

/-- Arguments between parentheses. -/
def arguments : Nat → Reader (List Expr)
  | 0 => unexpected
  | n + 1 => do
    expect "("
    allLines
    if ← accept ")" then return []
    else
      let es ← expressions n
      allLines
      expect ")"
      return es

end

/-- Expressions that are shown, with commas between them. -/
def shownExpressions : Nat → Reader (List Expr)
  | 0 => unexpected
  | n + 1 => do
    let e ← expression n true
    if ← accept "," then
      allLines
      return e :: (← shownExpressions n)
    else return [e]

/-- Whether a sign ends a statement. -/
def isEnd : Token → Bool
  | .sign s => s = ";" || s = "\x7d"
  | .line => true
  | .finish => true
  | _ => false

/-- Whether a sign leads output somewhere. -/
def leads : Token → Bool
  | .sign s => s = ">" || s = ">>" || s = "|"
  | _ => false

/-- Where output goes, if it is told. -/
def outlet? (n : Nat) : Reader (Option (Outlet × Expr)) := do
  if ← accept ">" then return some (.file, ← expression n true)
  else if ← accept ">>" then return some (.append, ← expression n true)
  else if ← accept "|" then return some (.command, ← expression n true)
  else return none

/-- What is shown, and where. -/
def output (n : Nat) : Reader (List Expr × Option (Outlet × Expr)) := do
  let begun ← get
  let bracketed : Option (List Expr) ← do
    if (← peek) = .sign "(" then
      skip
      allLines
      if ← accept ")" then pure (some [])
      else
        let es ← expressions n
        allLines
        expect ")"
        let t ← peek
        if isEnd t || leads t then pure (some es) else pure none
    else pure none
  match bracketed with
  | some es => return (es, ← outlet? n)
  | none =>
    set begun
    let t ← peek
    let es ← if isEnd t || leads t then pure [] else shownExpressions n
    return (es, ← outlet? n)

/-- Goes past what ends a statement. -/
def ender : Reader Unit := do
  match ← peek with
  | .sign ";" => skip
  | .line => skip
  | .sign "\x7d" => if (← get).braces = 0 then unexpected else pure ()
  | _ => unexpected

/-- A statement that others have no part in. -/
def plain (n : Nat) : Reader Statement := do
  match ← peek with
  | .keyword "print" =>
    skip
    let (es, o) ← output n
    return .print es o
  | .keyword "printf" =>
    skip
    let (es, o) ← output n
    if es.isEmpty then fail "no arguments in call to printf" else return .printf es o
  | .keyword "next" =>
    skip
    if (← get).rule || (← get).within then return .next else fail "improper use of next"
  | .keyword "nextfile" =>
    skip
    if (← get).rule || (← get).within then return .nextFile else fail "improper use of nextfile"
  | .keyword "break" =>
    if (← get).loops = 0 then fail "break statement outside of loop"
    else
      skip
      return .leave
  | .keyword "continue" =>
    if (← get).loops = 0 then fail "continue statement outside of loop"
    else
      skip
      return .again
  | .keyword "exit" =>
    skip
    if isEnd (← peek) then return .exit none else return .exit (some (← expression n false))
  | .keyword "return" =>
    if !(← get).within then fail "return outside function body"
    else
      skip
      if isEnd (← peek) then return .giveBack none else return .giveBack (some (← expression n false))
  | .keyword "delete" =>
    skip
    match ← peek with
    | .name t =>
      skip
      if ← accept "[" then
        let keys ← expressions n
        expect "]"
        return .delete t (some keys)
      else return .delete t none
    | _ => unexpected
  | _ => return .expr (← expression n false)

mutual

/-- A statement. -/
def statement : Nat → Reader Statement
  | 0 => unexpected
  | n + 1 => do
    match ← peek with
    | .sign ";" =>
      skip
      return .nothing
    | .sign "\x7b" =>
      skip
      block n
    | .keyword "if" =>
      skip
      let c ← condition n
      let yes ← statement n
      let begun ← get
      allLines
      if (← peek) = .keyword "else" then
        skip
        allLines
        return .choice c yes (← statement n)
      else
        set begun
        return .choice c yes .nothing
    | .keyword "while" =>
      skip
      expect "("
      let c ← expression n false
      expect ")"
      if ← accept ";" then return .loop c .nothing
      else
        allLines
        return .loop c (← body n)
    | .keyword "do" =>
      skip
      allLines
      let b ← body n
      allLines
      if (← peek) = .keyword "while" then
        skip
        expect "("
        let c ← expression n false
        expect ")"
        ender
        return .loopOnce b c
      else unexpected
    | .keyword "for" =>
      skip
      expect "("
      loop n
    | _ =>
      let s ← plain n
      ender
      return s

/-- A condition between parentheses, and the ends of lines after it. -/
def condition : Nat → Reader Expr
  | 0 => unexpected
  | n + 1 => do
    expect "("
    let c ← expression n false
    expect ")"
    allLines
    return c

/-- The body of a loop. -/
def body : Nat → Reader Statement
  | 0 => unexpected
  | n + 1 => do
    modify fun p => { p with loops := p.loops + 1 }
    let s ← statement n
    modify fun p => { p with loops := p.loops - 1 }
    return s

/-- A loop over keys or with a counter, its parenthesis being open. -/
def loop : Nat → Reader Statement
  | 0 => unexpected
  | n + 1 => do
    let rest := (← get).rest
    match (rest.take 4).map fun (s : Spelled) => s.token with
    | [.name x, .keyword "in", .name t, .sign ")"] =>
      skip
      skip
      skip
      skip
      allLines
      return .forKeys x t (← body n)
    | _ =>
      let first ← if (← peek) = .sign ";" then pure .nothing else do pure (Statement.expr (← expression n false))
      expect ";"
      allLines
      let c ← if (← peek) = .sign ";" then pure (Expr.number (.ofInt 1)) else expression n false
      expect ";"
      allLines
      let after ← if (← peek) = .sign ")" then pure .nothing else do pure (Statement.expr (← expression n false))
      expect ")"
      if ← accept ";" then return .forAll first c after .nothing
      else
        allLines
        return .forAll first c after (← body n)

/-- Statements up to a closing brace, the opening one being read. -/
def block : Nat → Reader Statement
  | 0 => unexpected
  | n + 1 => do
    if ← accept "\x7d" then return .nothing
    else if (← peek) = .line then
      skip
      block n
    else
      let s ← statement n
      return .block s (← block n)

end

/-- Parameters up to a closing parenthesis. -/
def parameters : Nat → Reader (List String)
  | 0 => unexpected
  | n + 1 => do
    match ← peek with
    | .sign ")" =>
      skip
      return []
    | .name x =>
      skip
      if ← accept "," then
        allLines
        return x :: (← parameters n)
      else
        expect ")"
        return [x]
    | _ => unexpected

/-- The braces of a rule with what is in them, if they come next. -/
def action? (n : Nat) (rule : Bool) : Reader (Option Statement) := do
  if (← peek) = .sign "\x7b" then
    modify fun p => { p with rule }
    skip
    let s ← block n
    return some s
  else return none

/-- Whether a sign separates rules. -/
def separates : Token → Bool
  | .sign s => s = ";"
  | .line => true
  | .finish => true
  | _ => false

/-- Goes past signs that separate rules. -/
def separators : Nat → Reader Unit
  | 0 => pure ()
  | n + 1 => do
    match ← peek with
    | .finish => pure ()
    | t =>
      if separates t then
        skip
        separators n

/-- A rule or a function, added to what was read. -/
def piece (n : Nat) (s : Script) : Reader Script := do
  let add := fun (r : Rule) => { s with rules := s.rules ++ [r] }
  match ← peek with
  | .keyword "BEGIN" =>
    skip
    match ← action? n false with
    | some b => return add ⟨.before, some b⟩
    | none => unexpected
  | .keyword "END" =>
    skip
    match ← action? n false with
    | some b => return add ⟨.after, some b⟩
    | none => unexpected
  | .keyword f =>
    if f = "function" ∨ f = "func" then
      skip
      let name ← match ← peek with
        | .name x => do
          skip
          pure x
        | .called x => do
          skip
          pure x
        | _ => unexpected
      if s.functions.any (·.name == name) then fail ("redefinition of " ++ name)
      expect "("
      let ps ← parameters n
      if ps.contains name then fail "function parameter cannot be the function"
      allLines
      expect "\x7b"
      modify fun p => { p with within := true, loops := 0 }
      let b ← block n
      modify fun p => { p with within := false }
      return { s with functions := s.functions ++ [⟨name, ps, b, []⟩] }
    else if f = "getline" then
      let e ← expression n false
      return add ⟨.each (some e), ← action? n true⟩
    else unexpected
  | .sign "\x7b" =>
    let b ← action? n true
    return add ⟨.each none, b⟩
  | _ =>
    let e ← expression n false
    let on ← if ← accept "," then do
        allLines
        pure (When.between e (← expression n false))
      else pure (When.each (some e))
    match ← action? n true with
    | some b => return add ⟨on, some b⟩
    | none => if separates (← peek) then return add ⟨on, none⟩ else unexpected

/-- All rules and functions. -/
def pieces : Nat → Script → Reader Script
  | 0, s => pure s
  | n + 1, s => do
    if (← peek) = .finish then return s
    else
      let s ← piece n s
      separators n
      pieces n s

/-- The names that follow the word for a function. -/
def functionNames : List Spelled → List String
  | a :: b :: rest =>
    match a.token, b.token with
    | .keyword f, .name x => (if f = "function" || f = "func" then [x] else []) ++ functionNames (b :: rest)
    | .keyword f, .called x => (if f = "function" || f = "func" then [x] else []) ++ functionNames (b :: rest)
    | _, _ => functionNames (b :: rest)
  | _ => []

end Reader

/-- How a script uses a name: as a value, as a table, or as a function with arguments. -/
inductive Use
  | value (name : String)
  | table (name : String)
  | call (name : String) (args : List Expr)

mutual

/-- How an expression uses names, at all depths. Arguments may be tables. -/
def Expr.uses : Expr → List Use
  | .named x => [.value x]
  | .item t keys => .table t :: keys.uses
  | .field e => e.uses
  | .assign _ a b => a.uses ++ b.uses
  | .step _ _ a => a.uses
  | .choice c a b => c.uses ++ a.uses ++ b.uses
  | .both a b => a.uses ++ b.uses
  | .either a b => a.uses ++ b.uses
  | .not a => a.uses
  | .sign _ a => a.uses
  | .within keys t => keys.uses ++ [.table t]
  | .fits _ a b => a.uses ++ b.uses
  | .relation _ a b => a.uses ++ b.uses
  | .join a b => a.uses ++ b.uses
  | .arith _ a b => a.uses ++ b.uses
  | .call f args => .call f args.toList :: args.nested
  | .apply f args =>
    if f = "length" then args.nested
    else if f = "split" then
      (match args with
        | .cons e (.cons (.named t) more) => e.uses ++ .table t :: more.uses
        | args => args.uses)
    else args.uses
  | .next target =>
    match target with
    | some e => e.uses
    | none => []
  | .nextOf _ source target =>
    source.uses ++
      match target with
      | some e => e.uses
      | none => []
  | .inner e => e.uses
  | _ => []

def Exprs.uses : Exprs → List Use
  | .nil => []
  | .cons e es => e.uses ++ es.uses

/-- How expressions use names, those apart that are such names themselves. -/
def Exprs.nested : Exprs → List Use
  | .nil => []
  | .cons (.named _) es => es.nested
  | .cons e es => e.uses ++ es.nested

end

/-- How a statement uses names. -/
def Statement.uses : Statement → List Use
  | .expr e => e.uses
  | .print es o => es.flatMap Expr.uses ++ ((o.map fun x => x.2.uses).getD [])
  | .printf es o => es.flatMap Expr.uses ++ ((o.map fun x => x.2.uses).getD [])
  | .block s t => s.uses ++ t.uses
  | .choice c s t => c.uses ++ s.uses ++ t.uses
  | .loop c s => c.uses ++ s.uses
  | .loopOnce s c => s.uses ++ c.uses
  | .forAll s c t b => s.uses ++ c.uses ++ t.uses ++ b.uses
  | .forKeys x t b => .value x :: .table t :: b.uses
  | .exit e => (e.map Expr.uses).getD []
  | .giveBack e => (e.map Expr.uses).getD []
  | .delete t keys => .table t :: (keys.map fun es => es.flatMap Expr.uses).getD []
  | _ => []

namespace Script

/-- The parameters of a function that are tables, as far as is known of the functions that it calls. -/
def tablesOf (fs : List Function) (f : Function) : List String :=
  let names := f.body.uses.flatMap fun
    | .value _ => []
    | .table t => [t]
    | .call name args =>
      match fs.find? (·.name == name) with
      | some g => (args.zip g.parameters).filterMap fun (a, p) =>
          match a with
          | .named x => if g.tables.contains p then some x else none
          | _ => none
      | none => []
  f.parameters.filter names.contains

/-- Functions with their tables; knowledge about those that are called takes some rounds to spread. -/
def withTables : Nat → List Function → List Function
  | 0, fs => fs
  | n + 1, fs => withTables n (fs.map fun f => { f with tables := tablesOf fs f })

/-- How the rules of a script use names. -/
def ruleUses (s : Script) : List Use :=
  s.rules.flatMap fun r =>
    (match r.on with
      | .each (some e) => e.uses
      | .between a b => a.uses ++ b.uses
      | _ => []) ++ (r.body.map Statement.uses).getD []

/-- The names that are values, and those that are tables, from the first use to the last, and what is wrong
with the first use that does not go with an earlier one. -/
def conflict? (fs : List Function) : List Use → List String → List String → Option String
  | [], _, _ => none
  | .value x :: us, vs, ts =>
    if ts.contains x then some ("illegal reference to array " ++ x) else conflict? fs us (x :: vs) ts
  | .table t :: us, vs, ts =>
    if vs.contains t then some ("illegal reference to variable " ++ t) else conflict? fs us vs (t :: ts)
  | .call f args :: us, vs, ts =>
    match fs.find? (·.name == f) with
    | none => conflict? fs us vs ts
    | some g =>
      let wrong := ((args.zip g.parameters).zipIdx 1).findSome? fun ((a, p), i) =>
        match a with
        | .named x =>
          let actual := if ts.contains x then some "array" else if vs.contains x then some "variable" else none
          let wanted := if g.tables.contains p then some "array"
            else if g.body.uses.any fun u => match u with
              | .value y => y == p
              | _ => false then some "variable" else none
          match actual, wanted with
          | some a, some w =>
            if a = w then none
            else some ("type error in arg(" ++ toString i ++ ") in call to " ++ f ++ " (actual local " ++ a ++
              " vs local " ++ w ++ ")")
          | _, _ => none
        | _ => none
      match wrong with
      | some text => some text
      | none => conflict? fs us vs ts

/-- The script that a text is; the functions that it calls have to be there and to take as many arguments,
and each name has one use. -/
def read (cs : List Char) : Except Flaw Script := do
  let tokens ← Token.ofScript cs
  let steps := 40 * tokens.length + 100
  let (s, _) ← (Reader.allLines *> Reader.pieces steps ⟨[], []⟩ : Reader Script).run
    ⟨tokens, 0, 0, 0, false, false, Reader.functionNames tokens⟩
  let last := (tokens.getLast?.map fun (s : Spelled) => s.line).getD 1
  for u in s.ruleUses ++ s.functions.flatMap fun f => f.body.uses do
    match u with
    | .call name args =>
      match s.functions.find? (·.name == name) with
      | none => throw ⟨last, "function " ++ name ++ " never defined", true⟩
      | some f =>
        if f.parameters.length < args.length then throw ⟨last - 1, "too many arguments in call to " ++ name, true⟩
    | _ => pure ()
  let functions := withTables (s.functions.length + 1) s.functions
  match conflict? functions s.ruleUses [] [] with
  | some text => throw ⟨last - 1, text, true⟩
  | none => return { s with functions }

end Script

end Stepwise.Shell.Records
