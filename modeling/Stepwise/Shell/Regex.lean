import Stepwise.Shell.Letters
import Stepwise.Shell.Pattern
import Stepwise.Text.Case
import Stepwise.Text.Sign
import Stepwise.Text.WordEnd

/-!
Regular expressions, and where they match. Of the matches that begin first the longest counts, or the
one that the expression asks for first.
-/

namespace Stepwise.Shell

/-- What has to stand between two characters. -/
inductive Border
  | start
  | finish
  | textStart
  | textEnd
  | wordStart
  | wordEnd
  | wordEdge
  | noWordEdge
  deriving DecidableEq, Repr

/-- Characters: those from one to another, those of a kind, those of words, those of two sorts, and those
outside. -/
inductive Member
  | range (low high : Char)
  | kind (name : String)
  | word
  | both (m n : Member)
  | outside (m : Member)
  deriving DecidableEq, Repr

/-- How a repetition goes on: as often as it can, as rarely as it can, or without giving up what it
took. -/
inductive Appetite
  | eager
  | lazy
  | possessive
  deriving DecidableEq, Repr

/-- A regular expression. -/
inductive Regex
  | one (c : Char)
  | any
  | among (inverted : Bool) (members : List Member)
  | border (b : Border)
  | group (n : Nat) (r : Regex)
  | again (n : Nat)
  | nothing
  | andThen (r s : Regex)
  | orElse (r s : Regex)
  | times (least : Nat) (most : Option Nat) (appetite : Appetite) (r : Regex)
  | folded (folding : Bool) (r : Regex)
  | lookAhead (wanted : Bool) (r : Regex)
  | lookBehind (wanted : Bool) (r : Regex)
  | once (r : Regex)
  | begin
  deriving Inhabited

namespace Member

/-- The names of kinds of characters. -/
def kinds : List String :=
  ["alpha", "digit", "alnum", "upper", "lower", "space", "blank", "punct", "print", "graph", "cntrl", "xdigit"]

/-- Whether a character of any script is of a kind. -/
def isOf (name : String) (c : Char) : Bool :=
  if c.toNat < 128 then isOfKind name c
  else
    let spaces := Text.isBlank c && !([0x85, 0xA0, 0x2007, 0x202F].contains c.toNat)
    let ends := c.toNat = 0x2028 ∨ c.toNat = 0x2029
    if name = "alpha" ∨ name = "alnum" then Text.isLetterOrDigit c
    else if name = "upper" then Text.small c != [c]
    else if name = "lower" then Text.small c == [c] && Text.isCased c
    else if name = "space" then spaces
    else if name = "blank" then spaces && !ends
    else if name = "punct" then Text.isSign c
    else if name = "graph" then Text.isLetterOrDigit c || Text.isSign c
    else if name = "print" then Text.isLetterOrDigit c || Text.isSign c || spaces && !ends
    else if name = "cntrl" then c.toNat < 160 || ends
    else false

/-- Whether a character is a letter, a digit or a low line. -/
def isOfWords (c : Char) : Bool := c == '_' || Text.isLetterOrDigit c

/-- Whether a character is one of those meant. -/
def holds (c : Char) : Member → Bool
  | range low high => low ≤ c && c ≤ high
  | kind name => isOf name c
  | word => isOfWords c
  | both m n => m.holds c || n.holds c
  | outside m => !m.holds c

end Member

namespace Regex

/-- The small form of a character, if it is one character. -/
def smallOf (c : Char) : Char :=
  match Text.small c with
  | [d] => d
  | _ => c

/-- The capital form of a character, if it is one character. -/
def capitalOf (c : Char) : Char :=
  match Text.capital c with
  | [d] => d
  | _ => c

/-- Where a match stands: the position reached, where the match is said to begin if that was set, and
the beginnings and ends of groups. -/
structure Standing where
  position : Nat
  start? : Option Nat
  groups : List (Nat × Nat × Nat)

/-- The beginning and the end of a group. -/
def Standing.group? (s : Standing) (n : Nat) : Option (Nat × Nat) := (s.groups.find? (·.1 == n)).map (·.2)

/-- A text that is searched: whether upper and lower case are the same, whether lines in it have
borders of their own, and whether the first way to match counts and not the longest. -/
structure Subject where
  text : Array Char
  folding : Bool
  inLines : Bool
  ordered : Bool

namespace Subject

/-- A text that is searched for what is longest. -/
def of (cs : List Char) (folding : Bool) : Subject := ⟨cs.toArray, folding, false, false⟩

/-- Whether two characters are the same in a subject. -/
def same (t : Subject) (a b : Char) : Bool :=
  a == b || (t.folding && (smallOf a == smallOf b || capitalOf a == capitalOf b))

/-- Whether a character of a word stands at a position. -/
def wordAt (t : Subject) (i : Nat) : Bool := (t.text[i]?).any Member.isOfWords

/-- The characters from one position to another. -/
def slice (t : Subject) (i j : Nat) : List Char := (t.text.extract i j).toList

/-- Whether a border is at a position. -/
def isAt (t : Subject) (i : Nat) (b : Border) : Bool :=
  let before := 0 < i && t.wordAt (i - 1)
  let after := t.wordAt i
  match b with
  | .textStart => i == 0
  | .textEnd => i == t.text.size
  | .start => i == 0 || (t.inLines && t.text[i - 1]? == some '\n')
  | .finish => i == t.text.size || (t.inLines && t.text[i]? == some '\n')
  | .wordStart => !before && after
  | .wordEnd => before && !after
  | .wordEdge => before != after
  | .noWordEdge => before == after

/-- The length of the longest run from a position on in which a condition holds, `n` being the most. -/
def run (t : Subject) (f : Char → Bool) : Nat → Nat → Nat
  | 0, _ => 0
  | n + 1, i => if (t.text[i]?).any f then run t f n (i + 1) + 1 else 0

/-- The first of standings at each position. -/
def distinct (t : Subject) (ss : List Standing) : List Standing :=
  match ss with
  | [] => ss
  | [_] => ss
  | _ =>
    let step := fun (acc : List Standing × Array Bool) (s : Standing) =>
      if acc.2.getD s.position false then acc else (s :: acc.1, acc.2.setIfInBounds s.position true)
    (ss.foldl step ([], Array.replicate (t.text.size + 1) false)).1.reverse

end Subject

/-- The condition on a character, if a regular expression is about a single one. -/
def single? (t : Subject) : Regex → Option (Char → Bool)
  | one c => some (t.same c)
  | any => some fun c => !Letters.isStray c
  | among inverted members =>
    some fun c =>
      let found := members.any (·.holds c) ||
        (t.folding && (members.any (·.holds (smallOf c)) || members.any (·.holds (capitalOf c))))
      found != inverted && !Letters.isStray c
  | folded b r => single? { t with folding := b } r
  | _ => none

/-- All ways in which a regular expression matches from a standing on, in the order in which they are
asked for. -/
def ways (t : Subject) : Nat → Regex → Standing → List Standing
  | 0, _, _ => []
  | n + 1, r, s =>
    match r with
    | border b => if t.isAt s.position b then [s] else []
    | group k r =>
      (ways t n r s).map fun e => { e with groups := (k, s.position, e.position) :: e.groups.filter (·.1 != k) }
    | again k =>
      match s.group? k with
      | some (i, j) =>
        let cs := t.slice i j
        let there := t.slice s.position (s.position + cs.length)
        if there.length = cs.length && (there.zip cs).all (fun x => t.same x.1 x.2) then
          [{ s with position := s.position + cs.length }]
        else []
      | none => []
    | nothing => [s]
    | andThen r q => t.distinct ((ways t n r s).flatMap (ways t n q))
    | orElse r q => t.distinct (ways t n r s ++ ways t n q s)
    | folded b r => ways { t with folding := b } n r s
    | lookAhead wanted r =>
      match ways t n r s with
      | [] => if wanted then [] else [s]
      | e :: _ => if wanted then [{ e with position := s.position, start? := s.start? }] else []
    | lookBehind wanted r =>
      let found := (List.range (s.position + 1)).findSome? fun k =>
        (ways t n r { s with position := s.position - k }).find? (·.position == s.position)
      match found with
      | none => if wanted then [] else [s]
      | some e => if wanted then [{ e with start? := s.start? }] else []
    | once r => (ways t n r s).take 1
    | begin => [{ s with start? := some s.position }]
    | times least most appetite r =>
      match single? t r with
      | some f =>
        let whole := t.run f (t.text.size - s.position) s.position
        let most := (most.map (min whole)).getD whole
        let counts := List.range (most + 1 - least)
        match appetite with
        | .eager => counts.map fun i => { s with position := s.position + most - i }
        | .lazy => counts.map fun i => { s with position := s.position + least + i }
        | .possessive => (counts.take 1).map fun _ => { s with position := s.position + most }
      | none =>
        let more := if most = some 0 then []
          else
            let next := (ways t n r s).filter fun e => e.position != s.position || 0 < least
            t.distinct (next.flatMap (ways t n (.times (least - 1) (most.map (· - 1)) appetite r)))
        let stay := if least = 0 then [s] else []
        match appetite with
        | .eager => t.distinct (more ++ stay)
        | .lazy => t.distinct (stay ++ more)
        | .possessive => (more ++ stay).take 1
    | r =>
      match single? t r, t.text[s.position]? with
      | some f, some c => if f c then [{ s with position := s.position + 1 }] else []
      | _, _ => []
termination_by structural n => n

/-- The longest of standings. -/
def longest (ss : List Standing) : Option Standing :=
  ss.foldl (fun (best : Option Standing) s => match best with
    | some b => if b.position < s.position then some s else best
    | none => some s) none

/-- The standing that counts among all of them. -/
def chosen (t : Subject) (ss : List Standing) : Option Standing := if t.ordered then ss.head? else longest ss

/-- The number of parts of a regular expression, repetitions being counted as often as they have to
be. -/
def size : Regex → Nat
  | group _ r => r.size + 1
  | andThen r s => r.size + s.size + 1
  | orElse r s => r.size + s.size + 1
  | times least most _ r => r.size + least + most.getD 0 + 1
  | folded _ r => r.size + 1
  | lookAhead _ r => r.size + 1
  | lookBehind _ r => r.size + 1
  | once r => r.size + 1
  | _ => 1

/-- The depth to which a match in a text has to be followed. -/
def depth (r : Regex) (t : Subject) : Nat := (r.size + 2) * (t.text.size + 2)

/-- The standings at the ends of all matches that begin at a position. -/
def waysFrom (r : Regex) (t : Subject) (i : Nat) : List Standing := ways t (r.depth t) r ⟨i, none, []⟩

/-- The first match at a position or after it: where it begins, and how it stands at its end. -/
def search? (r : Regex) (t : Subject) : Nat → Nat → Option (Nat × Standing)
  | 0, _ => none
  | n + 1, i =>
    match chosen t (r.waysFrom t i) with
    | some e => some (i, e)
    | none => if i < t.text.size then search? r t n (i + 1) else none

/-- The first match at a position or after it. -/
def find? (r : Regex) (t : Subject) (start : Nat) : Option (Nat × Standing) :=
  search? r t (t.text.size + 1) start

/-- The number of groups in a regular expression. -/
def groups : Regex → Nat
  | group n r => max n r.groups
  | andThen r s => max r.groups s.groups
  | orElse r s => max r.groups s.groups
  | times _ _ _ r => r.groups
  | folded _ r => r.groups
  | lookAhead _ r => r.groups
  | lookBehind _ r => r.groups
  | once r => r.groups
  | _ => 0

/-- The characters that a regular expression asks for one after the other, if it asks for no more. -/
def literally (cs : List Char) : Regex :=
  cs.foldr (fun c r => match r with
    | nothing => one c
    | r => andThen (one c) r) nothing

end Regex

end Stepwise.Shell
