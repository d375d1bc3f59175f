import Stepwise.Text.Lines

/-!
Paths as components. Empty components and single dots vanish when a text is read; double dots stay,
since what they mean depends on links. A path with a root replaces whatever it is appended to.
-/

namespace Stepwise

/-- A path: a root, empty for a relative path, and components. -/
structure Path where
  root : String
  parts : List String
  deriving DecidableEq, Repr, Inhabited

namespace Path

/-- The components of a text that mean anything. -/
def components (cs : List Char) : List String :=
  ((Text.splitAt '/' cs).filter fun p => !p.isEmpty && p != ['.']).map String.ofList

/-- The root of a text: one slash, or two if there are exactly two. -/
def rootOf (cs : List Char) : String :=
  match (cs.takeWhile (· == '/')).length with
  | 0 => ""
  | 2 => "//"
  | _ => "/"

/-- The path that a text spells. -/
def ofText (s : String) : Path := ⟨rootOf s.toList, components s.toList⟩

/-- A path appended to another. -/
def append (base p : Path) : Path := if p.root.isEmpty then ⟨base.root, base.parts ++ p.parts⟩ else p

instance : Append Path := ⟨append⟩

/-- The text of a path. -/
def text (p : Path) : String :=
  if p.root.isEmpty && p.parts.isEmpty then "." else p.root ++ Text.joinText "/" p.parts

/-- The path without its last component. -/
def parent (p : Path) : Path := ⟨p.root, p.parts.dropLast⟩

/-- The last component. -/
def name (p : Path) : String := p.parts.getLastD ""

/-- A path with one more component. -/
def child (p : Path) (name : String) : Path := ⟨p.root, p.parts ++ [name]⟩

/-- Components without double dots, each taking the one before it away. -/
def collapse : List String → List String → List String
  | kept, [] => kept.reverse
  | kept, ".." :: rest => collapse (kept.drop 1) rest
  | kept, name :: rest => collapse (name :: kept) rest

/-- Whether a path lies in another or is the same, by their texts alone. -/
def isWithin (p q : Path) : Bool := (collapse [] q.parts).isPrefixOf (collapse [] p.parts)

/-- Whether a path holds the null character, which no path may. -/
def hasNull (p : Path) : Bool := p.parts.any fun s => s.toList.any (·.toNat == 0)

end Path

end Stepwise

/-!
A tree of files as a table from places to nodes. A place is the list of names that lead to it from
the root, without dots or links; the root itself is always a directory.
-/

namespace Stepwise

/-- A file with its bytes, a directory, or a symbolic link with its target. -/
inductive Node
  | file (bytes : List UInt8)
  | directory
  | link (target : String)
  deriving DecidableEq, Repr, Inhabited

/-- Names that lead from the root to a node. -/
abbrev Place := List String

/-- The nodes below the root, by place. -/
structure FileTree where
  entries : List (Place × Node)
  deriving DecidableEq, Repr, Inhabited

namespace FileTree

/-- The node at a place. -/
def find? (t : FileTree) (p : Place) : Option Node :=
  if p.isEmpty then some .directory else (t.entries.find? (·.1 == p)).map (·.2)

/-- The entries with one put in place of what was there. -/
def putEntry (p : Place) (n : Node) : List (Place × Node) → List (Place × Node)
  | [] => [(p, n)]
  | e :: es => if e.1 = p then (p, n) :: es else e :: putEntry p n es

/-- The tree with a node at a place. -/
def put (t : FileTree) (p : Place) (n : Node) : FileTree := ⟨putEntry p n t.entries⟩

/-- The tree without a node. -/
def erase (t : FileTree) (p : Place) : FileTree := ⟨t.entries.filter (·.1 != p)⟩

/-- Whether a place lies strictly inside another. -/
def isInside (p q : Place) : Bool := q.isPrefixOf p && q.length < p.length

/-- The tree without what lies strictly inside a place. -/
def eraseInside (t : FileTree) (p : Place) : FileTree :=
  ⟨t.entries.filter fun e => !isInside e.1 p⟩

/-- The names of the nodes right inside a place. -/
def names (t : FileTree) (p : Place) : List String :=
  t.entries.filterMap fun e => if e.1.dropLast = p ∧ e.1 ≠ [] then e.1.getLast? else none

/-- A node with all that lies inside it moved to a new place. -/
def move (t : FileTree) (old new : Place) : FileTree :=
  ⟨(t.entries.filter fun e => !(e.1 == new)).map fun e =>
    if old.isPrefixOf e.1 then (new ++ e.1.drop old.length, e.2) else e⟩

theorem find?_root (t : FileTree) : t.find? [] = some .directory := rfl

private theorem find?_putEntry (p q : Place) (n : Node) (es : List (Place × Node)) :
    ((putEntry p n es).find? (·.1 == q)).map (·.2) =
      if p = q then some n else (es.find? (·.1 == q)).map (·.2) := by
  induction es with
  | nil => by_cases h : p = q <;> simp [putEntry, h]
  | cons e es ih =>
    by_cases hp : e.1 = p
    · by_cases h : p = q
      · simp [putEntry, hp, h]
      · simp [putEntry, hp, h]
    · rw [putEntry, if_neg hp]
      by_cases hq : e.1 = q
      · have h : p ≠ q := fun h => hp (hq.trans h.symm)
        simp [hq, h]
      · simpa [hq] using ih

/-- A node that is put at a place is found there, and all other places are as they were. -/
theorem find?_put (t : FileTree) (p q : Place) (n : Node) (h : q ≠ []) :
    (t.put p n).find? q = if p = q then some n else t.find? q := by
  simpa [find?, put, h] using find?_putEntry p q n t.entries

theorem find?_erase (t : FileTree) (p q : Place) (h : q ≠ []) :
    (t.erase p).find? q = if p = q then none else t.find? q := by
  simp only [find?, erase, List.isEmpty_iff, h, ↓reduceIte, List.find?_filter]
  by_cases hpq : p = q
  · subst hpq
    simp
  · rw [if_neg hpq]
    congr 2
    funext e
    by_cases he : e.1 = q
    · simp [he, Ne.symm hpq]
    · simp [he]

end FileTree

end Stepwise
