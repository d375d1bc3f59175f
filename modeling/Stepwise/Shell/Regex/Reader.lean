import Stepwise.Shell.Regex.Bracket

/-!
Reading regular expressions, in the basic form, where groups and repetitions are written with
backslashes, and in the extended form. Readers differ in what they make of signs that stand where they
make no sense.
-/

namespace Stepwise.Shell.Regex

/-- What is made of a sign of repetition that follows nothing. -/
inductive Idle
  | itself
  | skipped
  | refused
  deriving DecidableEq, Repr

/-- How regular expressions are written. Strict readers want no repetition of a repetition, nor bounds
that follow nothing; lenient ones take wrong bounds and closing signs for themselves. -/
structure Dialect where
  extended : Bool
  idle : Idle
  strict : Bool
  lenient : Bool
  downward : Bool
  dotEnds : Bool
  hatEnds : Bool

/-- A sign of a regular expression. -/
inductive Sign
  | plain (c : Char)
  | means (r : Regex)
  | border (b : Border)
  | again (n : Nat)
  | opening
  | closing
  | bar
  | repeated (c : Char)
  | brace
  | endBrace
  | bracket
  | lone
  deriving Inhabited

namespace Sign

/-- Signs that a letter after a backslash makes. -/
def letter? (c : Char) : Option Sign :=
  match c with
  | 'w' => some (.means (.among false [.word]))
  | 'W' => some (.means (.among true [.word]))
  | 's' => some (.means (.among false [.kind "space"]))
  | 'S' => some (.means (.among true [.kind "space"]))
  | 'b' => some (.border .wordEdge)
  | 'B' => some (.border .noWordEdge)
  | '<' => some (.border .wordStart)
  | '>' => some (.border .wordEnd)
  | '\x60' => some (.border .textStart)
  | '\'' => some (.border .textEnd)
  | c => if '1' ≤ c ∧ c ≤ '9' then some (.again (c.toNat - 48)) else none

/-- Signs that stand with a backslash in the basic form, and without one in the extended form. -/
def operator? (c : Char) : Option Sign :=
  match c with
  | '(' => some .opening
  | ')' => some .closing
  | '|' => some .bar
  | '+' => some (.repeated '+')
  | '?' => some (.repeated '?')
  | '\x7b' => some .brace
  | '\x7d' => some .endBrace
  | _ => none

/-- The sign at the beginning of a text, and what follows; `fresh` tells that the beginning of a line
may be meant. -/
def read? (d : Dialect) (fresh : Bool) : List Char → Option (Sign × List Char)
  | [] => none
  | ['\\'] => some (.lone, [])
  | '\\' :: c :: rest =>
    let operator := if d.extended then none else operator? c
    some (((operator <|> letter? c).getD (.plain c)), rest)
  | c :: rest =>
    let ends := rest.isEmpty ||
      (if d.extended then true else ['\\', '|'].isPrefixOf rest || ['\\', ')'].isPrefixOf rest)
    let sign := match c with
      | '*' => .repeated '*'
      | '[' => .bracket
      | '.' => .means (if d.dotEnds then .any else .among true [.range '\n' '\n'])
      | '^' => if d.extended || fresh then .border .start else .plain '^'
      | '$' => if ends then .border .finish else .plain '$'
      | c => ((if d.extended then operator? c else none)).getD (.plain c)
    some (sign, rest)

end Sign

/-- How far reading has come: the text left, the number of groups begun, the groups that are complete,
the signs that were skipped, and whether a kind of characters lacked its own brackets. -/
structure Progress where
  rest : List Char
  begun : Nat
  complete : List Nat
  skipped : List Char
  colons : Bool

/-- Reading an expression. -/
abbrev Reader := StateT Progress (Except Flaw)

namespace Reader

/-- The sign that comes next. -/
def peek (d : Dialect) (fresh : Bool) : Reader (Option Sign) := do
  return (Sign.read? d fresh (← get).rest).map (·.1)

/-- Goes past the sign that comes next. -/
def skip (d : Dialect) : Reader Unit :=
  modify fun p => { p with rest := ((Sign.read? d false p.rest).map (·.2)).getD [] }

/-- A number in bounds: none at all, a wrong one, or one that is right. -/
inductive Count
  | missing
  | wrong
  | exactly (n : Nat)

/-- The most that a repetition may count. -/
def mostCounted : Nat := 32767

/-- A number up to a comma or a closing brace; tells which of them ends it, if one does, and gives what
follows. -/
def count (d : Dialect) : Nat → Count → List Char → Count × Option Bool × List Char
  | 0, _, cs => (.wrong, none, cs)
  | n + 1, acc, cs =>
    match Sign.read? d false cs with
    | none => (.wrong, none, [])
    | some (.endBrace, rest) => (acc, some true, rest)
    | some (.plain ',', rest) => (acc, some false, rest)
    | some (.plain c, rest) =>
      let acc := match acc with
        | .wrong => .wrong
        | .missing => if c.isDigit then .exactly (c.toNat - 48) else .wrong
        | .exactly k => if c.isDigit then .exactly (min (mostCounted + 1) (k * 10 + (c.toNat - 48))) else .wrong
      count d n acc rest
    | some (_, rest) => count d n .wrong rest

/-- The bounds of a repetition after their brace, and what follows; none if the brace is to stand for
itself. -/
def bounds? (d : Dialect) (cs : List Char) : Except Flaw (Option (Nat × Option Nat × List Char)) :=
  let wrong := fun (atEnd : Bool) =>
    if d.lenient then .ok none else .error (if atEnd then .openBounds else .bounds)
  let close := fun (low : Nat) (high : Option Nat) (rest : List Char) =>
    if high.any (· < low) then .error .bounds
    else if mostCounted < high.getD low then .error .tooBig
    else .ok (some (low, high, rest))
  let upTo := fun (low : Nat) (rest : List Char) =>
    match count d (rest.length + 1) .missing rest with
    | (.wrong, stop, _) => wrong stop.isNone
    | (.missing, some true, rest) => close low none rest
    | (.exactly high, some true, rest) => close low (some high) rest
    | _ => .error .bounds
  match count d (cs.length + 1) .missing cs with
  | (.wrong, stop, _) => wrong stop.isNone
  | (.missing, some false, rest) => upTo 0 rest
  | (.missing, _, _) => .error .bounds
  | (.exactly low, some false, rest) => upTo low rest
  | (.exactly low, _, rest) => close low (some low) rest

/-- The bounds that a sign of repetition stands for. -/
def boundsOf (c : Char) : Nat × Option Nat :=
  if c = '*' then (0, none) else if c = '+' then (1, none) else (0, some 1)

/-- An expression with the repetitions that follow it, at most `n` of them; `noting` tells that they are
noted as skipped, and `tame` that wrong bounds stand for themselves. -/
def repeated (d : Dialect) (noting tame : Bool) : Nat → Regex → Reader Regex
  | 0, r => pure r
  | n + 1, r => do
    let note := fun (c : Char) => do
      if noting then modify fun p => { p with skipped := p.skipped ++ [c] }
    let check : Reader Unit := do
      if d.strict then
        match ← peek d false with
        | some (.repeated '*') => throw .repetition
        | some .brace => throw .repetition
        | _ => pure ()
    match ← peek d false with
    | some (.repeated c) =>
      skip d
      note c
      check
      let (least, most) := boundsOf c
      repeated d noting tame n (.times least most .eager r)
    | some .brace =>
      skip d
      let found ← match bounds? d (← get).rest with
        | .error e => if tame then pure none else throw e
        | .ok found => pure found
      match found with
      | some (least, most, rest) =>
        modify fun p => { p with rest }
        note '\x7b'
        check
        repeated d noting tame n (.times least most .eager r)
      | none => return .andThen r (← repeated d false false n (.one '\x7b'))
    | _ => pure r

/-- A list between brackets, the opening one being read. -/
def brackets (d : Dialect) : Reader Regex := do
  let cs := (← get).rest
  let (inverted, inner) := match cs with
    | '^' :: inner => (true, inner)
    | inner => (false, inner)
  if inner.isEmpty then throw .incomplete
  let (l, rest) ← Listing_.read d.downward (inner.length + 1) true inner
  modify fun p => { p with rest, colons := p.colons || l.isColons }
  return .among inverted (if inverted && !d.hatEnds then .range '\n' '\n' :: l.members else l.members)

/-- One expression after another. -/
def joined (before r : Regex) : Regex :=
  match before with
  | .nothing => r
  | before => .andThen before r

mutual

/-- Alternatives up to what closes the group; `nest` groups are open. -/
def either (d : Dialect) : Nat → Nat → Reader Regex
  | 0, _ => pure .nothing
  | n + 1, nest => do
    let r ← row d n nest true true .nothing
    match ← peek d false with
    | some .bar =>
      skip d
      return .orElse r (← either d n nest)
    | _ => pure r

/-- Expressions one after the other, after some of them. `first` tells that nothing came before that
could be repeated, and `fresh` that the beginning of a line may be meant. -/
def row (d : Dialect) : Nat → Nat → Bool → Bool → Regex → Reader Regex
  | 0, _, _, _, before => pure before
  | n + 1, nest, first, fresh, before => do
    let length := (← get).rest.length
    let push := fun (r : Regex) => do
      let r ← repeated d false false length r
      row d n nest false false (joined before r)
    match ← peek d fresh with
    | none => pure before
    | some .bar => pure before
    | some .closing =>
      if 0 < nest then pure before
      else if d.lenient then
        skip d
        push (.one ')')
      else throw .closedGroup
    | some .lone => throw .backslash
    | some .opening =>
      skip d
      let k := (← get).begun + 1
      modify fun p => { p with begun := k }
      let inner ← either d n (nest + 1)
      match ← peek d false with
      | some .closing =>
        skip d
        modify fun p => { p with complete := k :: p.complete }
        push (.group k inner)
      | _ => throw .openGroup
    | some .bracket =>
      skip d
      push (← brackets d)
    | some (.again k) =>
      if (← get).complete.contains k then
        skip d
        push (.again k)
      else throw .noGroup
    | some (.border b) =>
      skip d
      if d.idle = .skipped then
        let r ← repeated d first true length (.border b)
        let kept := if b = .start ∨ b = .finish then r else .border b
        row d n nest first true (joined before kept)
      else row d n nest first true (joined before (.border b))
    | some (.means r) =>
      skip d
      push r
    | some (.plain c) =>
      skip d
      push (.one c)
    | some .endBrace =>
      skip d
      push (.one '\x7d')
    | some (.repeated c) =>
      if d.idle = .refused then throw .repetition
      else
        skip d
        if d.idle = .itself then push (.one c)
        else
          modify fun p => { p with skipped := p.skipped ++ [c] }
          row d n nest first false before
    | some .brace =>
      if d.idle = .refused ∨ d.strict then throw .repetition
      else
        skip d
        if d.idle = .itself then push (.one '\x7b')
        else
          match bounds? d (← get).rest with
          | .ok (some (_, _, rest)) =>
            modify fun p => { p with rest, skipped := p.skipped ++ ['\x7b'] }
            row d n nest false false before
          | _ => push (.one '\x7b')

end

end Reader

/-- A regular expression that was read, the signs of repetition that were skipped, and whether a kind of
characters lacked its own brackets. -/
structure Reading where
  regex : Regex
  skipped : List Char
  colons : Bool

/-- The regular expression that a text is. -/
def read (d : Dialect) (cs : List Char) : Except Flaw Reading :=
  match (Reader.either d (2 * cs.length + 4) 0).run ⟨cs, 0, [], [], false⟩ with
  | .ok (r, p) => .ok ⟨r, p.skipped, p.colons⟩
  | .error e => .error e

namespace Dialect

/-- The basic form in scripts that edit, and the extended one. -/
def editing (extended inLines : Bool) : Dialect :=
  if extended then ⟨true, .refused, false, false, false, !inLines, !inLines⟩
  else ⟨false, .itself, true, false, false, !inLines, !inLines⟩

/-- The basic form in searches, and the extended one. -/
def searching (extended : Bool) : Dialect :=
  if extended then ⟨true, .skipped, false, true, false, true, false⟩
  else ⟨false, .itself, false, false, false, true, false⟩

/-- The basic form in calculations. -/
def calculating : Dialect := ⟨false, .itself, false, false, true, true, true⟩

end Dialect

end Stepwise.Shell.Regex
