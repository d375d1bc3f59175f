/-!
Characters in rows and cells, as standards list them.
-/

namespace Stepwise.Text

/-- A table of characters: the number of cells in a row, and the characters of rows, in pieces. The
replacement character stands in a free cell, and so are the cells behind the last character free. -/
structure Grid where
  width : Nat
  rows : List (Nat × List String)
  deriving DecidableEq, Repr

namespace Grid

/-- Whether a cell is taken by a character. -/
def isTaken (c : Char) : Bool := c != Char.ofNat 0xFFFD

/-- The characters of a row. -/
def row (g : Grid) (r : Nat) : List Char :=
  ((g.rows.find? (·.1 == r)).map fun x => x.2.flatMap String.toList).getD []

/-- The character in a cell of a row. -/
def charAt? (g : Grid) (r cell : Nat) : Option Char := ((g.row r)[cell]?).filter isTaken

/-- The rows and cells of a character. -/
def placesOf (g : Grid) (c : Char) : List (Nat × Nat) :=
  if !isTaken c then []
  else g.rows.filterMap fun (r, pieces) => ((pieces.flatMap String.toList).findIdx? (· == c)).map (r, ·)

/-- The first row and cell of a character. -/
def placeOf? (g : Grid) (c : Char) : Option (Nat × Nat) := (g.placesOf c).head?

/-- The last row and cell of a character among those that count. -/
def lastPlaceOf? (g : Grid) (c : Char) (counts : Nat × Nat → Bool := fun _ => true) : Option (Nat × Nat) :=
  (g.rows.flatMap fun (r, pieces) =>
    ((pieces.flatMap String.toList).zipIdx.filter (·.1 == c)).map fun x => (r, x.2)).filter counts |>.getLast?

/-- All characters of a table. -/
def characters (g : Grid) : List Char :=
  (g.rows.flatMap fun r => r.2.flatMap String.toList).filter isTaken

end Grid

end Stepwise.Text
