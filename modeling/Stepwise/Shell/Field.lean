import Stepwise.Shell.Pattern

/-!
The words that an expansion makes. What comes from an expansion that is not quoted is split at the
characters of a set: blanks of the set only separate, any other character of it ends a word, which may
be empty. Quotes keep a word from vanishing.
-/

namespace Stepwise.Shell

/-- A character of an expansion, quoted or not, and whether words may be split at it; a border between
parameters, which always separates if they are quoted; or the edge of something quoted. -/
inductive Cell
  | glyph (g : Glyph) (soft : Bool)
  | border (hard : Bool)
  | edge
  deriving DecidableEq, Repr

/-- Text as cells. -/
def cellsOf (quoted soft : Bool) (s : String) : List Cell :=
  s.toList.map fun c => .glyph (c, quoted) (soft && !quoted)

/-- The characters of cells; borders become the text between parameters. -/
def glyphsOf (between : String) (cs : List Cell) : List Glyph :=
  cs.flatMap fun
    | .glyph g _ => [g]
    | .border _ => between.toList.map fun c => (c, true)
    | .edge => []

/-- The text of cells. -/
def cellText (between : String) (cs : List Cell) : String :=
  String.ofList ((glyphsOf between cs).map (·.1))

/-- What cells were split into so far: finished words in reverse order, the word that goes on, also
in reverse order, whether it has begun, and whether a separator was just read that may still take one
character of the set. -/
structure Splitting where
  done : List (List Glyph)
  current : List Glyph
  begun : Bool
  open_ : Bool

namespace Splitting

/-- The word that goes on is finished. -/
def finish (s : Splitting) (isOpen : Bool) : Splitting :=
  ⟨s.current.reverse :: s.done, [], false, isOpen⟩

/-- One more cell, where `set` holds the characters that separate. -/
def step (set : List Char) (s : Splitting) : Cell → Splitting
  | .edge => { s with begun := true, open_ := false }
  | .border hard =>
    if hard || s.begun then s.finish true else s
  | .glyph g soft =>
    if soft && set.contains g.1 then
      if g.1 = ' ' ∨ g.1 = '\t' ∨ g.1 = '\n' then
        if s.begun then s.finish true else s
      else if s.open_ then { s with open_ := false }
      else s.finish false
    else { s with current := g :: s.current, begun := true, open_ := false }

/-- The words when all cells are read. -/
def words (s : Splitting) : List (List Glyph) :=
  ((if s.begun then s.finish false else s).done).reverse

end Splitting

/-- The words that cells make up. -/
def fields (set : List Char) (cs : List Cell) : List (List Glyph) :=
  (cs.foldl (Splitting.step set) ⟨[], [], false, false⟩).words

end Stepwise.Shell
