import Stepwise.Text.Lines

/-!
How alike two texts are, for guessing what was meant by a misspelt word. The longest stretch that
both have in common counts, and so do the stretches that what lies before it, and what lies after
it, have in common. Words are suggested when they share at least three fifths of their letters.
-/

namespace Stepwise.Text

/-- The number of characters that two texts have in common at their beginnings. -/
def sharedStart : List Char → List Char → Nat
  | a :: as, b :: bs => if a = b then sharedStart as bs + 1 else 0
  | _, _ => 0

/-- A stretch that two texts have in common: where it begins in each, and its length. -/
structure Stretch where
  left : Nat
  right : Nat
  length : Nat
  deriving DecidableEq, Repr

/-- The longer of two stretches, the first of equals. -/
def Stretch.longer (a b : Stretch) : Stretch := if a.length < b.length then b else a

/-- The longest stretch that begins at place `i` of the first text, found at place `j` or later of
the second one. -/
def longestFrom (i : Nat) (as : List Char) : Nat → List Char → Stretch
  | j, [] => ⟨i, j, 0⟩
  | j, b :: bs => Stretch.longer ⟨i, j, sharedStart as (b :: bs)⟩ (longestFrom i as (j + 1) bs)

/-- The longest stretch that two texts have in common, the first of equals, the first text being read
from place `i` on. -/
def longestShared (bs : List Char) : Nat → List Char → Stretch
  | i, [] => ⟨i, 0, 0⟩
  | i, a :: as => Stretch.longer (longestFrom i (a :: as) 0 bs) (longestShared bs (i + 1) as)

/-- The number of characters that two texts have in common, going at most `n` stretches deep. -/
def sharedCount : Nat → List Char → List Char → Nat
  | 0, _, _ => 0
  | n + 1, as, bs =>
    let s := longestShared bs 0 as
    if s.length = 0 then 0
    else s.length + sharedCount n (as.take s.left) (bs.take s.right) +
      sharedCount n (as.drop (s.left + s.length)) (bs.drop (s.right + s.length))

/-- Twice the characters that two texts share, and the characters that they have. -/
def likeness (as bs : List Char) : Nat × Nat :=
  (2 * sharedCount (as.length + 1) as bs, as.length + bs.length)

/-- Whether texts are alike enough for one to be suggested for the other. -/
def isAlike (as bs : List Char) : Bool :=
  let l := likeness as bs
  6 * (as.length + bs.length) ≤ 20 * min as.length bs.length && 6 * l.2 ≤ 10 * l.1

/-- Whether the first of two candidates is at least as like a word as the second; of two that are
equally like it the later in the order of texts comes first. -/
def isLiker (word : List Char) (a b : String) : Bool :=
  let x := likeness a.toList word
  let y := likeness b.toList word
  x.1 * y.2 > y.1 * x.2 || (x.1 * y.2 == y.1 * x.2 && decide (b ≤ a))

/-- The candidates that are like a word, at most three, the likest first. -/
def suggestions (candidates : List String) (word : String) : List String :=
  ((candidates.filter fun c => isAlike c.toList word.toList).mergeSort (isLiker word.toList)).take 3

end Stepwise.Text
