import Stepwise.Shell.Escape
import Stepwise.Shell.Regex

/-!
Patterns of scripts that work on records: extended regular expressions on bytes, in which a backslash
escapes between brackets too.
-/

namespace Stepwise.Shell.Records

/-- What is wrong with a pattern. -/
inductive PatternFlaw
  | missingClosing
  | missingOperand
  | openList
  deriving DecidableEq, Repr

def PatternFlaw.message : PatternFlaw → String
  | missingClosing => "missing ')'"
  | missingOperand => "missing operand"
  | openList => "bad class -- [], [^] or ["

namespace Pattern

/-- The members of the kinds of characters. -/
def kind? (name : String) : Option (List Member) :=
  let lower := Member.range 'a' 'z'
  let upper := Member.range 'A' 'Z'
  let digit := Member.range '0' '9'
  if name = "alpha" then some [lower, upper]
  else if name = "digit" then some [digit]
  else if name = "alnum" then some [lower, upper, digit]
  else if name = "upper" then some [upper]
  else if name = "lower" then some [lower]
  else if name = "space" then some [.range '\t' '\r', .range ' ' ' ']
  else if name = "blank" then some [.range '\t' '\t', .range ' ' ' ']
  else if name = "punct" then some [.range '!' '/', .range ':' '@', .range '[' '\x60', .range '\x7b' '~']
  else if name = "print" then some [.range ' ' '~']
  else if name = "graph" then some [.range '!' '~']
  else if name = "cntrl" then some [.range '\x00' '\x1f', .range '\x7f' '\x7f']
  else if name = "xdigit" then some [digit, .range 'a' 'f', .range 'A' 'F']
  else none

/-- The character that an escape stands for, the text after its backslash being given. -/
def escaped : List Char → Char × List Char
  | [] => ('\\', [])
  | c :: rest =>
    if c = '"' ∨ c = '/' then (c, rest)
    else if c = 'e' then (c, rest)
    else (escape? (c :: rest)).getD (c, rest)

/-- A character of a list between brackets, and what follows it. -/
def element : List Char → Option (Char × List Char)
  | [] => none
  | '\\' :: rest => some (escaped rest)
  | c :: rest => some (c, rest)

/-- The members of a list up to its closing bracket, and what follows it. -/
def members : Nat → Bool → List Char → Except PatternFlaw (List Member × List Char)
  | 0, _, _ => .error .openList
  | _, _, [] => .error .openList
  | n + 1, first, c :: rest => do
    if c = ']' ∧ !first then return ([], rest)
    let named := match c, rest with
      | '[', ':' :: more =>
        let name := more.takeWhile Char.isAlpha
        if [':', ']'].isPrefixOf (more.drop name.length) then
          some (String.ofList name, more.drop (name.length + 2))
        else none
      | _, _ => none
    match named with
    | some (name, after) =>
      match kind? name with
      | some ms =>
        let (more, after) ← members n false after
        return (ms ++ more, after)
      | none => .error .openList
    | none =>
      match element (c :: rest) with
      | none => .error .openList
      | some (low, after) =>
        match after with
        | '-' :: d :: more =>
          if d = ']' then
            let (ms, after) ← members n false after
            return (.range low low :: ms, after)
          else
            match element (d :: more) with
            | none => .error .openList
            | some (high, after) =>
              let (ms, after) ← members n false after
              return (.range low high :: ms, after)
        | after =>
          let (ms, after) ← members n false after
          return (.range low low :: ms, after)

/-- The bounds of a repetition after their brace, and what follows it. -/
def bounds? (cs : List Char) : Option (Nat × Option Nat × List Char) :=
  let low := cs.takeWhile Char.isDigit
  let number := fun (ds : List Char) => (String.ofList ds).toNat?.getD 0
  if low.isEmpty && cs.head? != some ',' then none
  else
    match cs.drop low.length with
    | '\x7d' :: rest => some (number low, some (number low), rest)
    | ',' :: '\x7d' :: rest => some (number low, none, rest)
    | ',' :: more =>
      let high := more.takeWhile Char.isDigit
      match high, more.drop high.length with
      | _ :: _, '\x7d' :: rest => some (number low, some (number high), rest)
      | _, _ => none
    | _ => none

/-- An expression with the repetitions that follow it. -/
def repeated : Nat → Regex → List Char → Regex × List Char
  | 0, r, cs => (r, cs)
  | n + 1, r, '*' :: rest => repeated n (.times 0 none .eager r) rest
  | n + 1, r, '+' :: rest => repeated n (.times 1 none .eager r) rest
  | n + 1, r, '?' :: rest => repeated n (.times 0 (some 1) .eager r) rest
  | n + 1, r, '\x7b' :: rest =>
    match bounds? rest with
    | some (low, high, after) => repeated n (.times low high .eager r) after
    | none => (r, '\x7b' :: rest)
  | _, r, cs => (r, cs)

mutual

/-- Alternatives, and what follows them. -/
def either : Nat → Nat → List Char → Except PatternFlaw (Regex × List Char)
  | 0, _, cs => .ok (.nothing, cs)
  | n + 1, nest, cs => do
    let (r, rest) ← row n nest .nothing true cs
    match rest with
    | '|' :: more =>
      if more.isEmpty then .error .missingOperand
      else
        let (q, rest) ← either n nest more
        return (.orElse r q, rest)
    | rest => return (r, rest)

/-- Expressions one after the other, and what follows them. -/
def row : Nat → Nat → Regex → Bool → List Char → Except PatternFlaw (Regex × List Char)
  | 0, _, before, _, cs => .ok (before, cs)
  | _, _, before, _, [] => .ok (before, [])
  | n + 1, nest, before, first, c :: rest =>
    let push := fun (r : Regex) (rest : List Char) =>
      let (r, rest) := repeated (rest.length + 1) r rest
      row n nest (match before with
        | .nothing => r
        | before => .andThen before r) false rest
    if c = '|' then (if first then .error .missingOperand else .ok (before, c :: rest))
    else if c = ')' ∧ 0 < nest then .ok (before, c :: rest)
    else if c = '(' then
      if rest.head? = some ')' then .error .missingOperand
      else
        match either n (nest + 1) rest with
        | .error e => .error e
        | .ok (r, ')' :: rest) => push (.group 0 r) rest
        | .ok _ => .error .missingClosing
    else if c = '[' then
      let (inverted, inner) := match rest with
        | '^' :: inner => (true, inner)
        | inner => (false, inner)
      match members (inner.length + 1) true inner with
      | .error e => .error e
      | .ok (ms, after) => push (.among inverted ms) after
    else if c = '.' then push .any rest
    else if c = '^' then push (.border .textStart) rest
    else if c = '$' then push (.border .textEnd) rest
    else if c = '\\' then
      let (d, after) := escaped rest
      push (.one d) after
    else if (c = '*' ∨ c = '+' ∨ c = '?') ∧ first then .error .missingOperand
    else push (.one c) rest

end

/-- The pattern that a text is. -/
def read (cs : List Char) : Except PatternFlaw Regex :=
  (either (2 * cs.length + 4) 0 cs).map (·.1)

end Pattern

end Stepwise.Shell.Records
