import Stepwise.FileTree.Calls

/-!
Patterns of names: a star stands for any text, a question mark for any character, and brackets for
one of some characters. What is quoted stands for itself.
-/

namespace Stepwise.Shell

/-- A character of an expanded word, and whether it is quoted. -/
abbrev Glyph := Char × Bool

/-- Characters between brackets: those from one to another, or those of a kind. -/
inductive Choice
  | range (low high : Char)
  | kind (name : String)
  deriving DecidableEq, Repr

/-- The kinds of characters, by name. -/
def isOfKind (name : String) (c : Char) : Bool :=
  let isGraph := 33 ≤ c.toNat && c.toNat < 127
  if name = "alpha" then c.isAlpha
  else if name = "digit" then c.isDigit
  else if name = "alnum" then c.isAlphanum
  else if name = "upper" then c.isUpper
  else if name = "lower" then c.isLower
  else if name = "space" then c == ' ' || (9 ≤ c.toNat && c.toNat ≤ 13)
  else if name = "blank" then c == ' ' || c == '\t'
  else if name = "punct" then isGraph && !c.isAlphanum
  else if name = "print" then isGraph || c == ' '
  else if name = "graph" then isGraph
  else if name = "cntrl" then c.toNat < 32 || c.toNat = 127
  else if name = "xdigit" then c.isDigit || ('a' ≤ c.toLower && c.toLower ≤ 'f')
  else false

namespace Choice

/-- Whether a character is among some choices. -/
def holds (c : Char) : Choice → Bool
  | range low high => low ≤ c && c ≤ high
  | kind name => isOfKind name c

end Choice

/-- An element of a pattern. -/
inductive Mark
  | one (c : Char)
  | any
  | many
  | among (inverted : Bool) (choices : List Choice)
  deriving DecidableEq, Repr

namespace Mark

/-- The name of a kind of characters, and what follows it. -/
def kind? : List Glyph → Option (String × List Glyph)
  | (':', false) :: rest =>
    let name := (rest.map (·.1)).takeWhile Char.isAlpha
    match rest.drop name.length with
    | (':', _) :: (']', _) :: after => some (String.ofList name, after)
    | _ => none
  | _ => none

/-- The choices between brackets, and what follows them; a closing bracket that comes first is a
choice itself. -/
def choices : Nat → Bool → List Glyph → Option (List Choice × List Glyph)
  | 0, _, _ => none
  | _, _, [] => none
  | n + 1, first, (a, quoted) :: rest =>
    if a = ']' ∧ !quoted ∧ !first then some ([], rest)
    else
      match if a = '[' ∧ !quoted then kind? rest else none with
      | some (name, after) => (choices n false after).map fun r => (.kind name :: r.1, r.2)
      | none =>
        let (a, rest) := match quoted, a, rest with
          | false, '\\', (b, _) :: after => (b, after)
          | _, a, rest => (a, rest)
        match rest with
        | ('-', false) :: (b, q) :: after =>
          if b = ']' ∧ !q then (choices n false rest).map fun r => (.range a a :: r.1, r.2)
          else (choices n false after).map fun r => (.range a b :: r.1, r.2)
        | _ => (choices n false rest).map fun r => (.range a a :: r.1, r.2)

/-- The pattern that at most `n` characters of a word spell. -/
def ofGlyphs : Nat → List Glyph → List Mark
  | 0, _ => []
  | _, [] => []
  | n + 1, (c, quoted) :: rest =>
    let plain := one c :: ofGlyphs n rest
    if quoted then plain
    else if c = '*' then many :: ofGlyphs n rest
    else if c = '?' then any :: ofGlyphs n rest
    else if c = '\\' then
      match rest with
      | (d, _) :: after => one d :: ofGlyphs n after
      | [] => plain
    else if c = '[' then
      let (inverted, inner) := match rest with
        | ('!', false) :: inner => (true, inner)
        | inner => (false, inner)
      match choices (inner.length + 1) true inner with
      | some (cs, after) => among inverted cs :: ofGlyphs n after
      | none => plain
    else plain

/-- The pattern that a word spells. -/
def pattern (gs : List Glyph) : List Mark := ofGlyphs gs.length gs

/-- Whether an element stands for more than one text. -/
def isWild : Mark → Bool
  | one _ => false
  | _ => true

/-- Whether an element that is not a star takes a character. -/
def takes (c : Char) : Mark → Bool
  | one d => c == d
  | among inverted choices => (choices.any (·.holds c)) != inverted
  | _ => true

/-- Whether a pattern covers what is left of a text, from each of its characters on and at its end. -/
def coversFrom : List Mark → List Char → List Bool
  | [], cs => cs.map (fun _ => false) ++ [true]
  | many :: ms, cs => (coversFrom ms cs).foldr (fun b later => (b || later.headD false) :: later) []
  | m :: ms, cs => cs.zipWith (fun c b => m.takes c && b) ((coversFrom ms cs).drop 1) ++ [false]

/-- Whether a pattern covers a whole text. -/
def covers : List Mark → List Char → Bool
  | [], cs => cs.isEmpty
  | many :: ms, cs => (coversFrom (many :: ms) cs).headD false
  | _ :: _, [] => false
  | m :: ms, c :: cs => m.takes c && covers ms cs

/-- The number of characters at the end that a pattern covers, the least or the most of them. -/
def trailing? (most : Bool) (ms : List Mark) (cs : List Char) : Option Nat :=
  let found := coversFrom ms cs
  if most then (found.findIdx? id).map (cs.length - ·) else found.reverse.findIdx? id

/-- The number of characters at the beginning that a pattern covers, the least or the most of them. -/
def leading? (most : Bool) (ms : List Mark) (cs : List Char) : Option Nat :=
  trailing? most ms.reverse cs.reverse

end Mark

/-- The files of a directory and the names under which the shell knows them, in order. -/
structure Listing where
  names : Path → List String
  isThere : Path → Bool
  spelled : String → String
  read : String → String

/-- The paths in directories that patterns for their components lead to. -/
def matching (l : Listing) : List (List Glyph) → Path → String → List String
  | [], _, written => [written]
  | part :: rest, here, written =>
    let text := String.ofList (part.map Prod.fst)
    let onward := fun (name : String) =>
      matching l rest (here.child (l.read name)) (written ++ name ++ (if rest.isEmpty then "" else "/"))
    let marks := Mark.pattern part
    if marks.any Mark.isWild then
      let hidden := part.head?.any fun g => g.1 == '.'
      let names := (if hidden then [".", ".."] else []) ++ l.names here
      (names.filter fun n => (hidden || n.toList.head? != some '.') &&
        Mark.covers marks n.toList).flatMap onward
    else if l.isThere (here.child (if text.isEmpty then "." else l.read text)) then onward text
    else []

/-- The pieces of a word between slashes. -/
def components (gs : List Glyph) : List (List Glyph) :=
  gs.foldr (fun g parts => match parts with
    | [] => [[g]]
    | p :: ps => if g.1 = '/' then [] :: p :: ps else (g :: p) :: ps) [[]]

/-- The names that a word stands for: the files it matches, or else itself. -/
def namesOf (l : Listing) (directory : Path) (gs : List Glyph) : List String :=
  let itself := String.ofList (gs.map Prod.fst)
  if (gs.any fun g => !g.2 && "*?[".toList.contains g.1) && (Mark.pattern gs).any Mark.isWild then
    let found := match components gs with
      | [] :: rest => matching l rest ⟨"/", []⟩ "/"
      | parts => matching l parts directory ""
    if found.isEmpty then [itself] else found
  else [itself]

end Stepwise.Shell
