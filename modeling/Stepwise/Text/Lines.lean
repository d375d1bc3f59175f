import Stepwise.Text.Blank

/-!
Cutting a text into lines and pieces. A line ends at any of the line separators of the standard, a
carriage return and a line feed together counting once. Pieces between separators are never lost:
a text always has one piece more than it has separators.
-/

namespace Stepwise.Text

/-- Whether a character ends a line. -/
def isLineEnd (c : Char) : Bool :=
  let n := c.toNat
  (0x0A ≤ n && n ≤ 0x0D) || (0x1C ≤ n && n ≤ 0x1E) || n == 0x85 || n == 0x2028 || n == 0x2029

/-- Puts a character in front of the first piece. -/
def consHead (c : Char) : List (List Char) → List (List Char)
  | [] => [[c]]
  | p :: ps => (c :: p) :: ps

/-- The lines of a text, each with the characters that end it. -/
def lines : List Char → List (List Char)
  | [] => []
  | c :: rest =>
    if isLineEnd c && !(c == '\r' && rest.head? == some '\n') then [c] :: lines rest
    else consHead c (lines rest)

theorem consHead_ne_nil (c : Char) (ps : List (List Char)) : consHead c ps ≠ [] := by
  cases ps <;> simp [consHead]

theorem length_consHead (c : Char) {ps : List (List Char)} (h : ps ≠ []) : (consHead c ps).length = ps.length := by
  cases ps with
  | nil => exact absurd rfl h
  | cons p ps => rfl

theorem flatten_consHead (c : Char) (ps : List (List Char)) : (consHead c ps).flatten = c :: ps.flatten := by
  cases ps <;> rfl

/-- The lines together are the text. -/
theorem flatten_lines (cs : List Char) : (lines cs).flatten = cs := by
  induction cs with
  | nil => rfl
  | cons c rest ih =>
    unfold lines
    split
    · simp [ih]
    · rw [flatten_consHead, ih]

/-- The pieces between the occurrences of one character. -/
def splitAt (sep : Char) : List Char → List (List Char)
  | [] => [[]]
  | c :: rest => if c = sep then [] :: splitAt sep rest else consHead c (splitAt sep rest)

/-- The pieces between occurrences of a word, the first `skip` characters being already read. -/
def splitSkipping (sep : List Char) : Nat → List Char → List (List Char)
  | _, [] => [[]]
  | skip + 1, _ :: rest => splitSkipping sep skip rest
  | 0, c :: rest =>
    if sep.isPrefixOf (c :: rest) then [] :: splitSkipping sep (sep.length - 1) rest
    else consHead c (splitSkipping sep 0 rest)

/-- The pieces between the occurrences of a non-empty word, read from the left. -/
def splitOn (sep cs : List Char) : List (List Char) := splitSkipping sep 0 cs

/-- Whether a word occurs in a text. -/
def occurs (word : List Char) : List Char → Bool
  | [] => word.isEmpty
  | c :: rest => word.isPrefixOf (c :: rest) || occurs word rest

/-- The pieces, with a separator between neighbours. -/
def join (sep : List Char) : List (List Char) → List Char
  | [] => []
  | [p] => p
  | p :: q :: ps => p ++ sep ++ join sep (q :: ps)

theorem join_consHead (sep : List Char) (c : Char) {ps : List (List Char)} (h : ps ≠ []) :
    join sep (consHead c ps) = c :: join sep ps := by
  match ps with
  | [] => exact absurd rfl h
  | [p] => rfl
  | p :: q :: ps => rfl

theorem splitAt_ne_nil (sep : Char) (cs : List Char) : splitAt sep cs ≠ [] := by
  cases cs with
  | nil => simp [splitAt]
  | cons c rest =>
    by_cases h : c = sep
    · simp [splitAt, h]
    · simp only [splitAt, h]
      exact consHead_ne_nil c _

/-- Nothing is lost between the pieces. -/
theorem join_splitAt (sep : Char) (cs : List Char) : join [sep] (splitAt sep cs) = cs := by
  induction cs with
  | nil => rfl
  | cons c rest ih =>
    by_cases h : c = sep
    · have hne := splitAt_ne_nil sep rest
      match hs : splitAt sep rest with
      | [] => exact absurd hs hne
      | p :: ps =>
        rw [hs] at ih
        simp [splitAt, h, hs, join, ih]
    · simp only [splitAt, h, ↓reduceIte]
      rw [join_consHead _ _ (splitAt_ne_nil sep rest), ih]

/-- The text before and after the first occurrence of a character. -/
def cutFirst (sep : Char) : List Char → Option (List Char × List Char)
  | [] => none
  | c :: rest =>
    if c = sep then some ([], rest) else (cutFirst sep rest).map fun p => (c :: p.1, p.2)

/-- The text before and after the last occurrence of a character. -/
def cutLast (sep : Char) : List Char → Option (List Char × List Char)
  | [] => none
  | c :: rest =>
    match cutLast sep rest with
    | some p => some (c :: p.1, p.2)
    | none => if c = sep then some ([], rest) else none

/-- What stands before the first separator holds none. -/
theorem eq_of_cutFirst {sep : Char} {cs before after : List Char}
    (h : cutFirst sep cs = some (before, after)) :
    cs = before ++ sep :: after ∧ sep ∉ before := by
  induction cs generalizing before with
  | nil => simp [cutFirst] at h
  | cons c rest ih =>
    by_cases hc : c = sep
    · simp only [cutFirst, hc, ↓reduceIte, Option.some.injEq, Prod.mk.injEq] at h
      obtain ⟨rfl, rfl⟩ := h
      simp [hc]
    · simp only [cutFirst, hc, ↓reduceIte, Option.map_eq_some_iff] at h
      obtain ⟨⟨b, a⟩, hrest, heq⟩ := h
      simp only [Prod.mk.injEq] at heq
      obtain ⟨rfl, rfl⟩ := heq
      obtain ⟨rfl, hmem⟩ := ih hrest
      exact ⟨rfl, by simp [hmem, Ne.symm hc]⟩

theorem cutFirst_eq_none_iff {sep : Char} {cs : List Char} : cutFirst sep cs = none ↔ sep ∉ cs := by
  induction cs with
  | nil => simp [cutFirst]
  | cons c rest ih =>
    by_cases hc : c = sep
    · simp [cutFirst, hc]
    · simp [cutFirst, hc, ih, Ne.symm hc]

theorem cutLast_eq_none_iff {sep : Char} {cs : List Char} : cutLast sep cs = none ↔ sep ∉ cs := by
  induction cs with
  | nil => simp [cutLast]
  | cons c rest ih =>
    unfold cutLast
    split
    next p hp => simp [hp] at ih; simp [ih]
    next hn =>
      by_cases hc : c = sep
      · simp [hc]
      · simp [hc, ih.mp hn, Ne.symm hc]

/-- What stands after the last separator holds none. -/
theorem eq_of_cutLast {sep : Char} {cs before after : List Char}
    (h : cutLast sep cs = some (before, after)) :
    cs = before ++ sep :: after ∧ sep ∉ after := by
  induction cs generalizing before with
  | nil => simp [cutLast] at h
  | cons c rest ih =>
    unfold cutLast at h
    split at h
    next p hp =>
      simp only [Option.some.injEq, Prod.mk.injEq] at h
      obtain ⟨rfl, rfl⟩ := h
      obtain ⟨heq, hmem⟩ := ih hp
      exact ⟨by rw [heq]; rfl, hmem⟩
    next hn =>
      by_cases hc : c = sep
      · simp only [hc, ↓reduceIte, Option.some.injEq, Prod.mk.injEq] at h
        obtain ⟨rfl, rfl⟩ := h
        exact ⟨by simp [hc], cutLast_eq_none_iff.mp hn⟩
      · simp [hc] at h

theorem cutFirst_append {sep : Char} {before : List Char} (h : sep ∉ before) (after : List Char) :
    cutFirst sep (before ++ sep :: after) = some (before, after) := by
  induction before with
  | nil => simp [cutFirst]
  | cons c rest ih =>
    rw [List.mem_cons, not_or] at h
    simp [cutFirst, Ne.symm h.1, ih h.2]

theorem cutLast_append {sep : Char} (before : List Char) {after : List Char} (h : sep ∉ after) :
    cutLast sep (before ++ sep :: after) = some (before, after) := by
  induction before with
  | nil => simp [cutLast, cutLast_eq_none_iff.mpr h]
  | cons c rest ih => simp [cutLast, ih]

/-- Every occurrence of a non-empty word replaced, read from the left. -/
def substitute (old new cs : List Char) : List Char := join new (splitOn old cs)

/-- Carriage returns, alone or before a line feed, as line feeds. -/
def unifyLineEnds : List Char → List Char
  | [] => []
  | '\r' :: '\n' :: rest => '\n' :: unifyLineEnds rest
  | c :: rest => (if c = '\r' then '\n' else c) :: unifyLineEnds rest

/-- Strings with a separator between neighbours. -/
def joinText (sep : String) (parts : List String) : String :=
  String.ofList (join sep.toList (parts.map String.toList))

end Stepwise.Text
