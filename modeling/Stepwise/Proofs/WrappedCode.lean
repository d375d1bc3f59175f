import Mathlib.Data.List.Basic
import Mathlib.Data.List.TakeWhile
import Stepwise.Code.Execution

/-!
What laying out a block of code does to its text. Indentation is put in front of the lines that the separators of the
standard make, and taking it away from these gives the block back. A program has fewer line ends, and its lines are
given back if and only if nothing but blanks follows one of the other separators within a line. Moving a whole block
to the right changes nothing.
-/

namespace Stepwise.Code

open Text

/-! Lines that end at some characters, a carriage return and a line feed together counting once. -/

/-- The lines of a text, each with what ends it. -/
def linesBy (ends : Char → Bool) : List Char → List (List Char)
  | [] => []
  | c :: rest =>
    if ends c && !(c == '\r' && rest.head? == some '\n') then [c] :: linesBy ends rest
    else consHead c (linesBy ends rest)

theorem linesBy_isLineEnd (cs : List Char) : linesBy isLineEnd cs = lines cs := by
  induction cs with
  | nil => rfl
  | cons c rest ih => rw [linesBy, lines, ih]

/-- No character of the text ends a line. -/
def Unbroken (ends : Char → Bool) (cs : List Char) : Prop := ∀ c ∈ cs, ends c = false

/-- What ends one line: a character, or a carriage return with a line feed. -/
def IsEnding (ends : Char → Bool) (t : List Char) : Prop := t = ['\r', '\n'] ∨ ∃ c, ends c = true ∧ t = [c]

/-- No carriage return and line feed stand at the place where two texts meet. -/
def Parted (t rest : List Char) : Prop := ¬ (t.getLast? = some '\r' ∧ rest.head? = some '\n')

section Lines

variable {ends : Char → Bool} {core t rest : List Char}

theorem unbroken_append : Unbroken ends (core ++ rest) ↔ Unbroken ends core ∧ Unbroken ends rest :=
  List.forall_mem_append

theorem unbroken_of_all (h : core.all (fun c => !ends c) = true) : Unbroken ends core := by
  intro c hc
  simpa using List.all_eq_true.mp h c hc

theorem flatten_linesBy (cs : List Char) : (linesBy ends cs).flatten = cs := by
  induction cs with
  | nil => rfl
  | cons c rest ih =>
    unfold linesBy
    split
    · rw [List.flatten_cons, ih]
      rfl
    · rw [flatten_consHead, ih]

/-- What stands in front of the first line end belongs to the first line. -/
theorem linesBy_unbroken_append {l : List Char} {ls : List (List Char)} (unbroken : Unbroken ends core)
    (cut : linesBy ends rest = l :: ls) : linesBy ends (core ++ rest) = (core ++ l) :: ls := by
  induction core with
  | nil => exact cut
  | cons c core ih =>
    have plain : ends c = false := unbroken c List.mem_cons_self
    rw [List.cons_append, linesBy, plain, ih fun d hd => unbroken d (List.mem_cons_of_mem c hd)]
    rfl

theorem linesBy_unbroken (unbroken : Unbroken ends core) (full : core ≠ []) : linesBy ends core = [core] := by
  induction core with
  | nil => exact absurd rfl full
  | cons c core ih =>
    have plain : ends c = false := unbroken c List.mem_cons_self
    rw [linesBy, plain]
    cases core with
    | nil => rfl
    | cons d core =>
      rw [ih (fun e he => unbroken e (List.mem_cons_of_mem c he)) (List.cons_ne_nil d core)]
      rfl

/-- The first line of a text that goes on behind it. -/
theorem linesBy_line (feed : ends '\n' = true) (unbroken : Unbroken ends core) (ending : IsEnding ends t)
    (parted : Parted t rest) : linesBy ends (core ++ t ++ rest) = (core ++ t) :: linesBy ends rest := by
  rw [List.append_assoc]
  refine linesBy_unbroken_append unbroken ?_
  rcases ending with rfl | ⟨c, closes, rfl⟩
  · simp [linesBy, feed, consHead]
  · have apart : (c == '\r' && rest.head? == some '\n') = false := by
      simpa [Parted] using parted
    simp [linesBy, closes, apart]

theorem IsEnding.ne_nil (ending : IsEnding ends t) : t ≠ [] := by
  rcases ending with rfl | ⟨c, -, rfl⟩
  · simp
  · simp

theorem parted_nil (t : List Char) : Parted t [] := by simp [Parted]

theorem unbroken_nil (ends : Char → Bool) : Unbroken ends [] := fun _ hc => absurd hc List.not_mem_nil

theorem linesBy_closed (feed : ends '\n' = true) (unbroken : Unbroken ends core) (ending : IsEnding ends t) :
    linesBy ends (core ++ t) = [core ++ t] := by
  have alone := linesBy_line feed unbroken ending (parted_nil t)
  rwa [List.append_nil] at alone

/-- A text behind a line end is cut by itself. -/
theorem linesBy_append (feed : ends '\n' = true) (ending : IsEnding ends t) (parted : Parted t rest) :
    linesBy ends (core ++ t ++ rest) = linesBy ends (core ++ t) ++ linesBy ends rest := by
  induction core with
  | nil =>
    rw [linesBy_line feed (unbroken_nil ends) ending parted, linesBy_closed feed (unbroken_nil ends) ending]
    rfl
  | cons c core ih =>
    have full : core ++ t ≠ [] := by simp [ending.ne_nil]
    have same : (core ++ t ++ rest).head? = (core ++ t).head? := List.head?_append_of_ne_nil _ full
    rw [List.cons_append, List.cons_append, linesBy, linesBy, same, ih]
    split
    · rfl
    · cases cut : linesBy ends (core ++ t) with
      | nil =>
        have lost : (linesBy ends (core ++ t)).flatten = core ++ t := flatten_linesBy _
        rw [cut] at lost
        exact absurd lost.symm full
      | cons l ls => rfl

/-- A text is empty, or a last line that nothing ends, or a line with what ends it and a text behind that. -/
theorem exists_line (ends : Char → Bool) (cs : List Char) :
    cs = [] ∨ Unbroken ends cs ∧ cs ≠ [] ∨ ∃ core t rest, cs = core ++ t ++ rest ∧ Unbroken ends core ∧
      IsEnding ends t ∧ Parted t rest := by
  induction cs with
  | nil => exact .inl rfl
  | cons c cs ih =>
    have bare := unbroken_nil ends
    cases closes : ends c with
    | true =>
      refine .inr (.inr ?_)
      by_cases pair : c = '\r' ∧ cs.head? = some '\n'
      · obtain ⟨rfl, next⟩ := pair
        obtain ⟨rest, rfl⟩ := List.head?_eq_some_iff.mp next
        exact ⟨[], ['\r', '\n'], rest, rfl, bare, .inl rfl, by simp [Parted]⟩
      · exact ⟨[], [c], cs, rfl, bare, .inr ⟨c, closes, rfl⟩, by simpa [Parted] using pair⟩
    | false =>
      have longer {core : List Char} (unbroken : Unbroken ends core) : Unbroken ends (c :: core) := by
        intro d hd
        rcases List.mem_cons.mp hd with rfl | hd
        · exact closes
        · exact unbroken d hd
      refine .inr ?_
      rcases ih with rfl | ⟨unbroken, -⟩ | ⟨core, t, rest, rfl, unbroken, ending, parted⟩
      · exact .inl ⟨longer bare, List.cons_ne_nil c []⟩
      · exact .inl ⟨longer unbroken, List.cons_ne_nil c cs⟩
      · exact .inr ⟨c :: core, t, rest, rfl, longer unbroken, ending, parted⟩

/-- Induction along the lines of a text. -/
theorem lines_induction {motive : List Char → Prop} (ends : Char → Bool) (nil : motive [])
    (last : ∀ core, Unbroken ends core → core ≠ [] → motive core)
    (line : ∀ core t rest, Unbroken ends core → IsEnding ends t → Parted t rest → motive rest →
      motive (core ++ t ++ rest)) (cs : List Char) : motive cs := by
  induction h : cs.length using Nat.strongRecOn generalizing cs with
  | ind n ih =>
    rcases exists_line ends cs with rfl | ⟨unbroken, full⟩ | ⟨core, t, rest, rfl, unbroken, ending, parted⟩
    · exact nil
    · exact last cs unbroken full
    · have taken := List.length_pos_iff.mpr ending.ne_nil
      refine line core t rest unbroken ending parted (ih rest.length ?_ rest rfl)
      simp only [List.length_append] at h
      omega

end Lines

/-! Indentation. -/

/-- A line with four spaces in front, unless it is blank. -/
def indentLine (l : List Char) : List Char := if l.all isBlank then l else "    ".toList ++ l

theorem indent_eq (cs : List Char) : indent cs = (lines cs).flatMap indentLine := rfl

/-- A line without the four spaces in front of it; a blank line is left alone. -/
def outdentLine (l : List Char) : List Char :=
  if l.all isBlank then l else if "    ".toList.isPrefixOf l then l.drop 4 else l

/-- A text without the indentation of its lines, whatever counts as a line. -/
def outdent (cut : List Char → List (List Char)) (cs : List Char) : List Char := (cut cs).flatMap outdentLine

theorem isBlank_of_isLineEnd {c : Char} (h : isLineEnd c = true) : isBlank c = true := by
  simp only [isLineEnd, isBlank, Bool.or_eq_true, Bool.and_eq_true, decide_eq_true_eq, beq_iff_eq] at h ⊢
  omega

theorem outdentLine_indentLine (l : List Char) : outdentLine (indentLine l) = l := by
  unfold indentLine
  by_cases blank : l.all isBlank = true
  · rw [if_pos blank, outdentLine, if_pos blank]
  · have more : ("    ".toList ++ l).all isBlank = true ↔ l.all isBlank = true := by
      rw [List.all_append]
      exact ⟨fun h => (Bool.and_eq_true_iff.mp h).2, fun h => Bool.and_eq_true_iff.mpr ⟨by decide, h⟩⟩
    rw [if_neg blank, outdentLine, if_neg (blank ∘ more.mp), if_pos (by simp [List.isPrefixOf])]
    rfl

section Indentation

variable {core t rest : List Char}

theorem blank_of_isEnding (ending : IsEnding isLineEnd t) : t.all isBlank = true := by
  rcases ending with rfl | ⟨c, closes, rfl⟩
  · decide
  · simpa using isBlank_of_isLineEnd closes

theorem indent_line (unbroken : Unbroken isLineEnd core) (ending : IsEnding isLineEnd t) (parted : Parted t rest) :
    indent (core ++ t ++ rest) = indentLine (core ++ t) ++ indent rest := by
  rw [indent_eq, ← linesBy_isLineEnd, linesBy_line (by decide) unbroken ending parted, linesBy_isLineEnd]
  rfl

theorem indent_closed (unbroken : Unbroken isLineEnd core) (ending : IsEnding isLineEnd t) :
    indent (core ++ t) = indentLine (core ++ t) := by
  rw [indent_eq, ← linesBy_isLineEnd, linesBy_closed (by decide) unbroken ending]
  simp

theorem indent_unbroken (unbroken : Unbroken isLineEnd core) : indent core = indentLine core := by
  cases core with
  | nil => rfl
  | cons c core =>
    rw [indent_eq, ← linesBy_isLineEnd, linesBy_unbroken unbroken (List.cons_ne_nil c core)]
    simp

/-- Indentation puts spaces into the part of a line in front of its end. -/
theorem exists_indentLine (core t : List Char) :
    ∃ front, indentLine (core ++ t) = front ++ t ∧ ∀ c ∈ front, c ∈ core ∨ c = ' ' := by
  unfold indentLine
  split
  · exact ⟨core, rfl, fun c hc => .inl hc⟩
  · refine ⟨"    ".toList ++ core, (List.append_assoc _ _ _).symm, fun c hc => ?_⟩
    rcases List.mem_append.mp hc with hc | hc
    · exact .inr (by simpa using hc)
    · exact .inl hc

theorem Unbroken.of_spaced {ends : Char → Bool} {front : List Char} (unbroken : Unbroken ends core)
    (space : ends ' ' = false) (made : ∀ c ∈ front, c ∈ core ∨ c = ' ') : Unbroken ends front := by
  intro c hc
  rcases made c hc with hc | rfl
  · exact unbroken c hc
  · exact space

/-- No line feed comes to the front by indentation. -/
theorem parted_indent (parted : Parted t rest) : Parted t (indent rest) := by
  rintro ⟨last, first⟩
  refine parted ⟨last, ?_⟩
  have kept {l ls : List Char} (full : l ≠ []) (h : (indentLine l ++ ls).head? = some '\n') : l.head? = some '\n' := by
    unfold indentLine at h
    split at h
    · rwa [List.head?_append_of_ne_nil l full] at h
    · simp at h
  rcases exists_line isLineEnd rest with rfl | ⟨unbroken, full⟩ | ⟨core, u, rest, rfl, unbroken, ending, seam⟩
  · exact first
  · rw [indent_unbroken unbroken, ← List.append_nil (indentLine rest)] at first
    exact kept full first
  · rw [indent_line unbroken ending seam] at first
    have full : core ++ u ≠ [] := by simp [ending.ne_nil]
    rw [List.head?_append_of_ne_nil _ full]
    exact kept full first

/-- The lines of an indented text are the lines of the text, each indented. -/
theorem lines_indent (cs : List Char) : lines (indent cs) = (lines cs).map indentLine := by
  rw [← linesBy_isLineEnd, ← linesBy_isLineEnd]
  induction cs using lines_induction isLineEnd with
  | nil => rfl
  | last core unbroken full =>
    obtain ⟨front, made, from_core⟩ := exists_indentLine core []
    rw [List.append_nil, List.append_nil] at made
    have kept : front ≠ [] := by
      rw [← made, indentLine]
      split <;> simp [full]
    rw [indent_unbroken unbroken, made, linesBy_unbroken (unbroken.of_spaced (by decide) from_core) kept,
      linesBy_unbroken unbroken full, ← made]
    rfl
  | line core t rest unbroken ending parted ih =>
    obtain ⟨front, made, from_core⟩ := exists_indentLine core t
    rw [indent_line unbroken ending parted, made,
      linesBy_line (by decide) (unbroken.of_spaced (by decide) from_core) ending (parted_indent parted), ih,
      linesBy_line (by decide) unbroken ending parted, List.map_cons, made]

/-- Taking the indentation away gives the text back. -/
theorem outdent_indent (cs : List Char) : outdent lines (indent cs) = cs := by
  rw [outdent, lines_indent, List.flatMap_map]
  simp only [outdentLine_indentLine, List.flatMap_id', flatten_lines]

end Indentation

/-! The lines of a program. -/

/-- Whether a character ends a line of a program. -/
def isBreak (c : Char) : Bool := c == '\n' || c == '\r'

/-- The lines of a program, each with the line feed or the carriage return, or both, that ends it. -/
def programLines : List Char → List (List Char) := linesBy isBreak

/-- Nothing but blanks stands in a line from its first line separator on, whatever separator that is. -/
def isWhole (l : List Char) : Bool := (l.dropWhile fun c => !isLineEnd c).all isBlank

section ProgramLines

variable {core t rest : List Char}

theorem isLineEnd_of_isBreak {c : Char} (h : isBreak c = true) : isLineEnd c = true := by
  rcases Bool.or_eq_true_iff.mp h with h | h
  · rw [eq_of_beq h]
    decide
  · rw [eq_of_beq h]
    decide

theorem Unbroken.of_isLineEnd (unbroken : Unbroken isLineEnd core) : Unbroken isBreak core := by
  intro c hc
  by_contra closes
  have ends := isLineEnd_of_isBreak (Bool.not_eq_false _ ▸ closes)
  rw [unbroken c hc] at ends
  cases ends

theorem isEnding_of_isBreak (ending : IsEnding isBreak t) : IsEnding isLineEnd t :=
  ending.imp_right fun ⟨c, closes, same⟩ => ⟨c, isLineEnd_of_isBreak closes, same⟩

/-- The end of a line of a program is blank, and stays as it is. -/
theorem indent_isEnding (ending : IsEnding isLineEnd t) : indent t = t := by
  have alone := indent_closed (unbroken_nil isLineEnd) ending
  rw [List.nil_append] at alone
  rw [alone, indentLine, if_pos (blank_of_isEnding ending)]

/-- Indentation puts spaces into a line of a program, in front of what ends it. -/
theorem exists_indent (unbroken : Unbroken isBreak core) (ending : t = [] ∨ IsEnding isBreak t) :
    ∃ front, indent (core ++ t) = front ++ t ∧ ∀ c ∈ front, c ∈ core ∨ c = ' ' := by
  induction core using lines_induction isLineEnd with
  | nil =>
    refine ⟨[], ?_, fun c hc => absurd hc List.not_mem_nil⟩
    rcases ending with rfl | ending
    · rfl
    · exact indent_isEnding (isEnding_of_isBreak ending)
  | last core plain full =>
    obtain ⟨front, made, from_core⟩ := exists_indentLine core t
    refine ⟨front, ?_, from_core⟩
    rcases ending with rfl | ending
    · rw [← made, List.append_nil, indent_unbroken plain]
    · rw [indent_closed plain (isEnding_of_isBreak ending), made]
  | line core u rest plain closing parted ih =>
    obtain ⟨inside, behind⟩ := unbroken_append.mp unbroken
    obtain ⟨front, made, from_core⟩ := exists_indentLine core u
    obtain ⟨later, laid, from_rest⟩ := ih behind
    -- no carriage return ends the separator within the line
    have seam : Parted u (rest ++ t) := by
      rintro ⟨last, -⟩
      have inside := (unbroken_append.mp inside).2 _ (List.mem_of_getLast? last)
      cases inside
    refine ⟨front ++ u ++ later, ?_, fun c hc => ?_⟩
    · rw [List.append_assoc (core ++ u), indent_line plain closing seam, made, laid]
      simp only [List.append_assoc]
    · simp only [List.mem_append] at hc ⊢
      rcases hc with (hc | hc) | hc
      · exact (from_core c hc).imp_left fun h => .inl (.inl h)
      · exact .inl (.inl (.inr hc))
      · exact (from_rest c hc).imp_left .inr

/-- Lines of a program are indented one by one. -/
theorem indent_append (ending : IsEnding isBreak t) (parted : Parted t rest) :
    indent (core ++ t ++ rest) = indent (core ++ t) ++ indent rest := by
  simp only [indent_eq, ← linesBy_isLineEnd]
  rw [linesBy_append (by decide) (isEnding_of_isBreak ending) parted, List.flatMap_append]

/-- The lines of the indented program are the lines of the program, each indented by itself. -/
theorem programLines_indent (cs : List Char) : programLines (indent cs) = (programLines cs).map indent := by
  unfold programLines
  induction cs using lines_induction isBreak with
  | nil => rfl
  | last core unbroken full =>
    obtain ⟨front, made, from_core⟩ := exists_indent unbroken (.inl rfl)
    rw [List.append_nil, List.append_nil] at made
    have kept : front ≠ [] := by
      rintro rfl
      exact full (by rw [← outdent_indent core, made]; rfl)
    rw [made, linesBy_unbroken (unbroken.of_spaced (by decide) from_core) kept, linesBy_unbroken unbroken full,
      List.map_singleton, made]
  | line core t rest unbroken ending parted ih =>
    obtain ⟨front, made, from_core⟩ := exists_indent unbroken (.inr ending)
    rw [indent_append ending parted, made,
      linesBy_line (by decide) (unbroken.of_spaced (by decide) from_core) ending (parted_indent parted), ih,
      linesBy_line (by decide) unbroken ending parted, List.map_cons, made]

theorem indent_of_blank {cs : List Char} (blank : cs.all isBlank = true) : indent cs = cs := by
  rw [indent_eq]
  have same : ∀ l ∈ lines cs, indentLine l = l := by
    intro l hl
    rw [indentLine, if_pos]
    rw [List.all_eq_true] at blank ⊢
    intro c hc
    refine blank c ?_
    rw [← flatten_lines cs]
    exact List.mem_flatten_of_mem hl hc
  rw [List.flatMap_congr same]
  simp [flatten_lines]

theorem length_indentLine (l : List Char) : l.length ≤ (indentLine l).length := by
  unfold indentLine
  split
  · exact Nat.le_refl _
  · exact List.length_append ▸ Nat.le_add_left _ _

theorem length_indentLine_of_not_blank {l : List Char} (full : l.all isBlank = false) :
    (indentLine l).length = l.length + 4 := by
  rw [indentLine, full]
  simp

theorem length_indent (cs : List Char) : cs.length ≤ (indent cs).length := by
  induction cs using lines_induction isLineEnd with
  | nil => exact Nat.le_refl _
  | last core unbroken _ =>
    rw [indent_unbroken unbroken]
    exact length_indentLine core
  | line core t rest unbroken ending parted ih =>
    rw [indent_line unbroken ending parted, List.length_append, @List.length_append _ (indentLine _)]
    exact Nat.add_le_add (length_indentLine _) ih

/-- There is some line that is not blank, which has four spaces more. -/
theorem length_indent_of_not_blank {cs : List Char} (full : cs.all isBlank = false) :
    cs.length + 4 ≤ (indent cs).length := by
  induction cs using lines_induction isLineEnd with
  | nil => cases full
  | last core unbroken _ =>
    exact Nat.le_of_eq (by rw [indent_unbroken unbroken, length_indentLine_of_not_blank full])
  | line core t rest unbroken ending parted ih =>
    have later := length_indent rest
    have first := length_indentLine (core ++ t)
    rw [indent_line unbroken ending parted, List.length_append, @List.length_append _ (indentLine _)]
    cases blank : rest.all isBlank with
    | false =>
      have := ih blank
      omega
    | true =>
      rw [List.all_append, blank, Bool.and_true] at full
      have := length_indentLine_of_not_blank full
      omega

/-! Taking the indentation of a line of a program away. -/

theorem length_outdentLine (l : List Char) : l.length ≤ (outdentLine l).length + 4 := by
  unfold outdentLine
  split
  · omega
  · split
    · rw [List.length_drop]
      omega
    · omega

/-- The text is not shorter than before it was indented. -/
theorem length_outdentLine_indent (cs : List Char) : cs.length ≤ (outdentLine (indent cs)).length := by
  cases blank : cs.all isBlank with
  | true => exact Nat.le_of_eq (by rw [indent_of_blank blank, outdentLine, if_pos blank])
  | false =>
    have more := length_indent_of_not_blank blank
    have taken := length_outdentLine (indent cs)
    omega

/-- What stands in front of the first line end. -/
theorem takeWhile_line (unbroken : Unbroken isLineEnd core) (ending : IsEnding isLineEnd t) (rest : List Char) :
    (core ++ t ++ rest).takeWhile (fun c => !isLineEnd c) = core ∧
      (core ++ t ++ rest).dropWhile (fun c => !isLineEnd c) = t ++ rest := by
  have plain : ∀ c ∈ core, (!isLineEnd c) = true := fun c hc => by rw [unbroken c hc]; rfl
  have stop : (t ++ rest).takeWhile (fun c => !isLineEnd c) = [] ∧
      (t ++ rest).dropWhile (fun c => !isLineEnd c) = t ++ rest := by
    rcases ending with rfl | ⟨c, closes, rfl⟩
    · exact ⟨rfl, rfl⟩
    · simp [closes]
  rw [List.append_assoc]
  constructor
  · rw [List.takeWhile_append_of_pos plain, stop.1, List.append_nil]
  · rw [List.dropWhile_append_of_pos plain, stop.2]

/-- What is longer than what it becomes had four spaces in front. -/
theorem eq_append_of_outdentLine {l m : List Char} (taken : outdentLine m = l) (shorter : l.length < m.length) :
    m = "    ".toList ++ l := by
  unfold outdentLine at taken
  split at taken
  · rw [taken] at shorter
    exact absurd shorter (Nat.lt_irrefl _)
  · split at taken
    · next spaces =>
      obtain ⟨behind, rfl⟩ := List.isPrefixOf_iff_prefix.mp spaces
      rw [← taken]
      rfl
    · rw [taken] at shorter
      exact absurd shorter (Nat.lt_irrefl _)

/-- Spaces that were put in behind a line end are not the ones that are taken away. -/
theorem blank_of_outdentLine_indent (unbroken : Unbroken isLineEnd core) (ending : IsEnding isLineEnd t)
    (parted : Parted t rest) (back : outdentLine (indent (core ++ t ++ rest)) = core ++ t ++ rest) :
    rest.all isBlank = true := by
  by_contra more
  have laid := indent_line unbroken ending parted
  have later := length_indent_of_not_blank (Bool.not_eq_true _ ▸ more)
  have first := length_indentLine (core ++ t)
  have total := congrArg List.length laid
  have before : (core ++ t ++ rest).length = (core ++ t).length + rest.length := List.length_append
  rw [List.length_append] at total
  have put := eq_append_of_outdentLine back (by omega)
  have kept : indentLine (core ++ t) = core ++ t := by
    by_contra moved
    have full : (core ++ t).all isBlank = false := by
      rw [← Bool.not_eq_true]
      exact fun blank => moved (if_pos blank)
    have four : (indent (core ++ t ++ rest)).length = 4 + (core ++ t ++ rest).length := by
      rw [put, List.length_append]
      rfl
    have longer := length_indentLine_of_not_blank full
    omega
  rw [laid, kept, ← List.append_assoc, ← List.append_assoc] at put
  have front := congrArg (List.takeWhile fun c => !isLineEnd c) put
  rw [(takeWhile_line (unbroken_append.mpr ⟨unbroken_of_all (by decide), unbroken⟩) ending rest).1,
    (takeWhile_line unbroken ending (indent rest)).1] at front
  exact absurd (List.self_eq_append_left.mp front) (by decide)

/-- What is a line of a program is given back if it is whole, and not otherwise. -/
theorem outdentLine_indent_eq_iff (l : List Char) : outdentLine (indent l) = l ↔ isWhole l = true := by
  rcases exists_line isLineEnd l with rfl | ⟨unbroken, full⟩ | ⟨core, t, rest, rfl, unbroken, ending, parted⟩
  · decide
  · have none : l.dropWhile (fun c => !isLineEnd c) = [] := by
      rw [List.dropWhile_eq_nil_iff]
      exact fun c hc => by rw [unbroken c hc]; rfl
    rw [indent_unbroken unbroken, outdentLine_indentLine, isWhole, none]
    exact ⟨fun _ => rfl, fun _ => rfl⟩
  · have whole : isWhole (core ++ t ++ rest) = rest.all isBlank := by
      rw [isWhole, (takeWhile_line unbroken ending rest).2, List.all_append, blank_of_isEnding ending]
      exact Bool.true_and _
    rw [whole]
    refine ⟨blank_of_outdentLine_indent unbroken ending parted, fun blank => ?_⟩
    have same : (core ++ t ++ rest).all isBlank = (core ++ t).all isBlank := by
      rw [List.all_append, blank, Bool.and_true]
    have one : indent (core ++ t ++ rest) = indentLine (core ++ t ++ rest) := by
      rw [indent_line unbroken ending parted, indent_of_blank blank, indentLine, indentLine, same]
      split
      · rfl
      · exact List.append_assoc _ _ _
    rw [one, outdentLine_indentLine]

section Pieces

variable {f : List Char → List Char}

/-- Pieces of which none gets shorter do not get shorter together. -/
theorem length_flatten_le (grows : ∀ l, l.length ≤ (f l).length) (ls : List (List Char)) :
    ls.flatten.length ≤ (ls.flatMap f).length := by
  induction ls with
  | nil => exact Nat.le_refl _
  | cons l ls ih =>
    rw [List.flatMap_cons, List.flatten_cons, List.length_append, List.length_append]
    exact Nat.add_le_add (grows l) ih

/-- Pieces of which none gets shorter stay what they are together only if each does. -/
theorem flatMap_eq_flatten_iff (grows : ∀ l, l.length ≤ (f l).length) (ls : List (List Char)) :
    ls.flatMap f = ls.flatten ↔ ∀ l ∈ ls, f l = l := by
  induction ls with
  | nil => simp
  | cons l ls ih =>
    rw [List.flatMap_cons, List.flatten_cons, List.forall_mem_cons]
    constructor
    · intro same
      have total := congrArg List.length same
      rw [List.length_append, List.length_append] at total
      have first := grows l
      have later := length_flatten_le grows ls
      exact (List.append_inj same (by omega)).imp_right ih.mp
    · rintro ⟨first, later⟩
      rw [first, ih.mpr later]

end Pieces

/-- The indentation of each line of a program is taken away. -/
theorem outdent_programLines_indent (cs : List Char) :
    outdent programLines (indent cs) = (programLines cs).flatMap fun l => outdentLine (indent l) := by
  rw [outdent, programLines_indent, List.flatMap_map]

theorem flatten_programLines (cs : List Char) : (programLines cs).flatten = cs := flatten_linesBy cs

/-- A program is given back if all its lines are whole, and not otherwise. -/
theorem outdent_programLines_indent_eq_iff (cs : List Char) :
    outdent programLines (indent cs) = cs ↔ ∀ l ∈ programLines cs, isWhole l = true := by
  have law := flatMap_eq_flatten_iff length_outdentLine_indent (programLines cs)
  rw [flatten_programLines, ← outdent_programLines_indent] at law
  simpa only [outdentLine_indent_eq_iff] using law

/-- A program that is indented and read back is not shorter than before. -/
theorem length_outdent_programLines_indent (cs : List Char) :
    cs.length ≤ (outdent programLines (indent cs)).length := by
  have longer := length_flatten_le length_outdentLine_indent (programLines cs)
  rwa [flatten_programLines, ← outdent_programLines_indent] at longer

end ProgramLines

/-! The body of a block. -/

/-- The text that a block stands for: nothing is `pass`, and a single line of a program that starts as a call of a
capability does is an expression whose value is returned. -/
def bodyText (start source : List Char) : List Char :=
  if source.isEmpty then "pass".toList
  else if start.isPrefixOf source && (programLines source).length == 1 then "return ".toList ++ source
  else source

/-- What is indented for a block: an expression is told by there being no line feed. -/
def laidText (start source : List Char) : List Char :=
  if source.isEmpty then "pass".toList
  else if start.isPrefixOf source && !source.contains '\n' then "return ".toList ++ source
  else source

/-- The block starts as an expression and holds no line feed, but carriage returns, which end lines as well. -/
def Misread (start source : List Char) : Prop :=
  start.isPrefixOf source = true ∧ '\n' ∉ source ∧ '\r' ∈ source

theorem body_eq {start : List Char} (full : start ≠ []) (source : List Char) :
    body start source = indent (laidText start source) := by
  unfold body laidText
  cases source with
  | nil =>
    have no : start.isPrefixOf ([] : List Char) = false := by
      cases start with
      | nil => exact absurd rfl full
      | cons c start => rfl
    simp [no]
  | cons c source =>
    cases start.isPrefixOf (c :: source) && !(c :: source).contains '\n' <;> simp

/-- A text without a blank at its end is a single line of a program if no character of it ends a line. -/
theorem length_programLines_eq_one_iff {source : List Char} (full : source ≠ [])
    (trimmed : ∀ c ∈ source.getLast?, isBlank c = false) :
    (programLines source).length = 1 ↔ '\n' ∉ source ∧ '\r' ∉ source := by
  unfold programLines
  rcases exists_line isBreak source with rfl | ⟨unbroken, -⟩ | ⟨core, t, rest, rfl, unbroken, ending, parted⟩
  · exact absurd rfl full
  · rw [linesBy_unbroken unbroken full]
    have free {c : Char} (closes : isBreak c = true) : c ∉ source := by
      intro hc
      rw [unbroken c hc] at closes
      cases closes
    exact ⟨fun _ => ⟨free (by decide), free (by decide)⟩, fun _ => rfl⟩
  · constructor
    · intro one
      rw [linesBy_line (by decide) unbroken ending parted, List.length_cons, Nat.add_eq_right,
        List.length_eq_zero_iff] at one
      have pieces : (linesBy isBreak rest).flatten = rest := flatten_linesBy rest
      rw [one] at pieces
      obtain rfl : [] = rest := pieces
      -- so the text would end with the line end, which is blank
      have blank := blank_of_isEnding (isEnding_of_isBreak ending)
      have last := List.getLast?_eq_some_getLast ending.ne_nil
      rw [List.append_nil, List.getLast?_append, last] at trimmed
      have clear := trimmed _ rfl
      rw [List.all_eq_true.mp blank _ (List.mem_of_getLast? last)] at clear
      cases clear
    · rintro ⟨feed, carriage⟩
      simp only [List.mem_append, not_or] at feed carriage
      rcases ending with rfl | ⟨c, closes, rfl⟩
      · exact absurd (by simp) feed.1.2
      · rcases Bool.or_eq_true_iff.mp closes with h | h
        · exact absurd (List.mem_singleton.mpr (eq_of_beq h).symm) feed.1.2
        · exact absurd (List.mem_singleton.mpr (eq_of_beq h).symm) carriage.1.2

/-- What is indented is what the block stands for, unless the block is misread as an expression. -/
theorem laidText_cases (start : List Char) {source : List Char} (trimmed : ∀ c ∈ source.getLast?, isBlank c = false) :
    laidText start source = bodyText start source ∧ ¬ Misread start source ∨
      laidText start source = "return ".toList ++ source ∧ bodyText start source = source ∧ Misread start source := by
  cases source with
  | nil => exact .inl ⟨rfl, fun h => absurd h.2.2 List.not_mem_nil⟩
  | cons c source =>
    have one := length_programLines_eq_one_iff (List.cons_ne_nil c source) trimmed
    unfold laidText bodyText Misread
    simp only [List.isEmpty_cons, Bool.false_eq_true, if_false, Bool.and_eq_true, Bool.not_eq_true', beq_iff_eq,
      List.contains_eq_mem, decide_eq_false_iff_not]
    simp only [one]
    by_cases starts : start.isPrefixOf (c :: source) = true
    · by_cases feed : '\n' ∈ c :: source
      · exact .inl ⟨by simp only [feed, not_true_eq_false, and_false, false_and], fun h => h.2.1 feed⟩
      · by_cases carriage : '\r' ∈ c :: source
        · exact .inr ⟨if_pos ⟨starts, feed⟩, if_neg fun h => h.2.2 carriage, starts, feed, carriage⟩
        · refine .inl ⟨?_, fun h => carriage h.2.2⟩
          rw [if_pos ⟨starts, feed⟩, if_pos ⟨starts, feed, carriage⟩]
    · refine .inl ⟨?_, fun h => starts h.1⟩
      rw [if_neg fun h => starts h.1, if_neg fun h => starts h.1]

/-- The word in front of an expression stands in its first line, and leaves it as whole as it was. -/
theorem forall_isWhole_return {source : List Char} (full : source ≠ []) :
    (∀ l ∈ programLines ("return ".toList ++ source), isWhole l = true) ↔
      ∀ l ∈ programLines source, isWhole l = true := by
  cases cut : programLines source with
  | nil =>
    have pieces := flatten_programLines source
    rw [cut] at pieces
    exact absurd pieces.symm full
  | cons l ls =>
    have plain : Unbroken isLineEnd "return ".toList := unbroken_of_all (by decide)
    have first : isWhole ("return ".toList ++ l) = isWhole l := by
      unfold isWhole
      rw [List.dropWhile_append_of_pos fun c hc => by rw [plain c hc]; rfl]
    have longer : programLines ("return ".toList ++ source) = ("return ".toList ++ l) :: ls :=
      linesBy_unbroken_append plain.of_isLineEnd cut
    rw [longer, List.forall_mem_cons, List.forall_mem_cons, first]

theorem forall_isWhole_laidText (start source : List Char) :
    (∀ l ∈ programLines (laidText start source), isWhole l = true) ↔ ∀ l ∈ programLines source, isWhole l = true := by
  unfold laidText
  cases source with
  | nil =>
    rw [List.isEmpty_nil, if_pos rfl]
    decide
  | cons c source =>
    rw [List.isEmpty_cons, if_neg Bool.false_ne_true]
    split
    · exact forall_isWhole_return (List.cons_ne_nil c source)
    · exact Iff.rfl

/-- The body of a trimmed block, read line by line as a program. -/
theorem outdent_programLines_body_eq_iff {start source : List Char} (full : start ≠ [])
    (trimmed : ∀ c ∈ source.getLast?, isBlank c = false) :
    outdent programLines (body start source) = bodyText start source ↔
      (∀ l ∈ programLines source, isWhole l = true) ∧ ¬ Misread start source := by
  rw [body_eq full]
  rcases laidText_cases start trimmed with ⟨same, read⟩ | ⟨laid, meant, misread⟩
  · rw [← same, outdent_programLines_indent_eq_iff, forall_isWhole_laidText]
    exact (and_iff_left read).symm
  · have longer := length_outdent_programLines_indent (laidText start source)
    constructor
    · intro back
      rw [back, meant, laid, List.length_append] at longer
      exact absurd longer (by simp)
    · exact fun h => absurd misread h.2

theorem getLast?_source (code : String) : ∀ c ∈ (source code).getLast?, isBlank c = false :=
  (trim_eq_self_iff.mp (trim_trim (dedent code.toList))).2

/-- A block becomes the body of a function with its lines indented: taking the indentation away gives back what was
laid out. Line by line of the program that is the text that the block stands for if and only if nothing but blanks
stands in each of its lines behind a separator that ends no line of a program, and the block is not misread as an
expression. -/
theorem wrapped_block_read_back (root code : String) :
    wrap (root ++ ".") code =
        "async def __ai_cmd_code_step__():\n" ++ String.ofList (body (root ++ ".").toList (source code)) ++ "\n" ∧
      outdent lines (body (root ++ ".").toList (source code)) = laidText (root ++ ".").toList (source code) ∧
      (outdent programLines (body (root ++ ".").toList (source code)) = bodyText (root ++ ".").toList (source code) ↔
        (∀ l ∈ programLines (source code), isWhole l = true) ∧ ¬ Misread (root ++ ".").toList (source code)) := by
  have full : (root ++ ".").toList ≠ [] := by simp
  refine ⟨rfl, ?_, outdent_programLines_body_eq_iff full (getLast?_source code)⟩
  rw [body_eq full, outdent_indent]

/-- A form feed in a text constant ends no line of the program, but gets four spaces behind it. -/
theorem form_feed_indented :
    ¬ ∀ root code, outdent programLines (body (root ++ ".").toList (source code)) =
      bodyText (root ++ ".").toList (source code) := by
  intro same
  have shifted := same "base_function" "x = 'a\x0cb'"
  revert shifted
  decide +kernel

/-! Moving a whole block to the right. -/

/-- A line with `w` in front, or a line of nothing but margin in place of another. -/
def Moved (w l l' : List Char) : Prop :=
  l.all isMargin = true ∧ l'.all isMargin = true ∨ l.all isMargin = false ∧ l' = w ++ l

/-- The second block is the first one with `w` in front of each line that is more than margin. -/
def MovedBy (w : List Char) (code code' : String) : Prop :=
  List.Forall₂ (Moved w) (splitAt '\n' code.toList) (splitAt '\n' code'.toList)

section Moving

variable {w : List Char}

theorem commonStart_append (w as bs : List Char) : commonStart (w ++ as) (w ++ bs) = w ++ commonStart as bs := by
  induction w with
  | nil => rfl
  | cons c w ih => rw [List.cons_append, List.cons_append, commonStart, if_pos rfl, ih, List.cons_append]

theorem commonStart_leads (as bs : List Char) : commonStart as bs <+: as ∧ commonStart as bs <+: bs := by
  induction as generalizing bs with
  | nil => exact ⟨List.nil_prefix, List.nil_prefix⟩
  | cons a as ih =>
    cases bs with
    | nil => exact ⟨List.nil_prefix, List.nil_prefix⟩
    | cons b bs =>
      unfold commonStart
      split
      · next same =>
        subst same
        exact ⟨List.cons_prefix_cons.mpr ⟨rfl, (ih bs).1⟩, List.cons_prefix_cons.mpr ⟨rfl, (ih bs).2⟩⟩
      · exact ⟨List.nil_prefix, List.nil_prefix⟩

/-- The common beginning of several texts is a beginning of each. -/
theorem foldl_commonStart_leads (m : List Char) (ms : List (List Char)) :
    ∀ n ∈ m :: ms, ms.foldl commonStart m <+: n := by
  induction ms generalizing m with
  | nil =>
    intro n hn
    rw [List.mem_singleton.mp hn]
    exact List.prefix_rfl
  | cons k ms ih =>
    have first := ih (commonStart m k)
    intro n hn
    rcases List.mem_cons.mp hn with rfl | hn
    · exact (first _ List.mem_cons_self).trans (commonStart_leads n k).1
    · rcases List.mem_cons.mp hn with rfl | hn
      · exact (first _ List.mem_cons_self).trans (commonStart_leads m n).2
      · exact first n (List.mem_cons_of_mem _ hn)

theorem foldl_commonStart_append (w m : List Char) (ms : List (List Char)) :
    (ms.map (w ++ ·)).foldl commonStart (w ++ m) = w ++ ms.foldl commonStart m := by
  induction ms generalizing m with
  | nil => rfl
  | cons n ms ih => rw [List.map_cons, List.foldl_cons, List.foldl_cons, commonStart_append, ih]

/-- A line without the common margin. -/
def withoutMargin (m l : List Char) : List Char := if m.isPrefixOf l then l.drop m.length else l

theorem dedent_eq (cs : List Char) :
    dedent cs = join ['\n'] (((splitAt '\n' cs).map dropBlankMargin).map
      (withoutMargin (margin ((splitAt '\n' cs).map dropBlankMargin)))) := rfl

/-- The lines that are more than margin. -/
def inked (ls : List (List Char)) : List (List Char) := ls.filter fun l => !l.all isMargin

theorem ink_append {l : List Char} (ink : l.all isMargin = false) : (w ++ l).all isMargin = false := by
  rw [List.all_append, ink, Bool.and_false]

theorem inked_of_blank {l : List Char} (blank : l.all isMargin = true) (ls : List (List Char)) :
    inked (l :: ls) = inked ls := by
  rw [inked, List.filter_cons, blank]
  rfl

theorem inked_of_ink {l : List Char} (ink : l.all isMargin = false) (ls : List (List Char)) :
    inked (l :: ls) = l :: inked ls := by
  rw [inked, List.filter_cons, ink]
  rfl

/-- The lines that have a margin are those that are more than margin. -/
theorem filter_dropBlankMargin (ls : List (List Char)) :
    (ls.map dropBlankMargin).filter (!·.isEmpty) = inked ls := by
  induction ls with
  | nil => rfl
  | cons l ls ih =>
    rw [List.map_cons, List.filter_cons, ih, dropBlankMargin]
    cases blank : l.all isMargin with
    | true =>
      rw [inked_of_blank blank]
      rfl
    | false =>
      have full : l.isEmpty = false := by
        rw [← Bool.not_eq_true, List.isEmpty_iff]
        rintro rfl
        cases blank
      simp only [Bool.false_eq_true, if_false, full, Bool.not_false, if_true, inked_of_ink blank]

theorem inked_moved {ls ls' : List (List Char)} (moved : List.Forall₂ (Moved w) ls ls') :
    inked ls' = (inked ls).map (w ++ ·) := by
  induction moved with
  | nil => rfl
  | cons first _ ih =>
    rcases first with ⟨blank, blank'⟩ | ⟨ink, rfl⟩
    · rw [inked_of_blank blank, inked_of_blank blank', ih]
    · rw [inked_of_ink ink, inked_of_ink (ink_append ink), ih, List.map_cons]

/-- The margin grows by what stands in front of the lines, if there is a line to have one. -/
theorem margin_moved (blank : w.all isMargin = true) {ls ls' : List (List Char)}
    (moved : List.Forall₂ (Moved w) ls ls') (ink : inked ls ≠ []) :
    margin (ls'.map dropBlankMargin) = w ++ margin (ls.map dropBlankMargin) := by
  have longer : (fun l => List.takeWhile isMargin l) ∘ (w ++ ·) = (w ++ ·) ∘ fun l => List.takeWhile isMargin l :=
    funext fun l => List.takeWhile_append_of_pos (List.all_eq_true.mp blank)
  unfold margin
  rw [filter_dropBlankMargin, filter_dropBlankMargin, inked_moved moved, List.map_map, longer, ← List.map_map]
  cases lines : inked ls with
  | nil => exact absurd lines ink
  | cons l rest => exact foldl_commonStart_append w _ _

/-- Each line that is more than margin begins with the margin. -/
theorem margin_prefix {ls : List (List Char)} {l : List Char} (hl : l ∈ inked ls) :
    margin (ls.map dropBlankMargin) <+: l := by
  unfold margin
  rw [filter_dropBlankMargin]
  cases lines : inked ls with
  | nil =>
    rw [lines] at hl
    cases hl
  | cons first rest =>
    rw [lines] at hl
    have front := foldl_commonStart_leads (first.takeWhile isMargin) (rest.map (·.takeWhile isMargin))
    rw [← List.map_cons] at front
    exact (front _ (List.mem_map_of_mem hl)).trans (List.takeWhile_prefix _)

/-- A line that was moved is the same without the margin, if that was moved as well. -/
theorem withoutMargin_moved {l l' m m' : List Char} (moved : Moved w l l')
    (grown : l.all isMargin = false → m' = w ++ m ∧ m <+: l) :
    withoutMargin m' (dropBlankMargin l') = withoutMargin m (dropBlankMargin l) := by
  rcases moved with ⟨blank, blank'⟩ | ⟨ink, rfl⟩
  · simp [dropBlankMargin, blank, blank', withoutMargin]
  · obtain ⟨rfl, rest, rfl⟩ := grown ink
    rw [dropBlankMargin, dropBlankMargin, ink_append ink, ink, ← List.append_assoc]
    simp [withoutMargin, List.isPrefixOf_iff_prefix]

theorem map_withoutMargin_moved {ls ls' : List (List Char)} {m m' : List Char}
    (moved : List.Forall₂ (Moved w) ls ls')
    (grown : ∀ l ∈ ls, l.all isMargin = false → m' = w ++ m ∧ m <+: l) :
    (ls'.map dropBlankMargin).map (withoutMargin m') = (ls.map dropBlankMargin).map (withoutMargin m) := by
  induction moved with
  | nil => rfl
  | cons first _ ih =>
    rw [List.forall_mem_cons] at grown
    simp only [List.map_cons]
    rw [withoutMargin_moved first grown.1, ih grown.2]

/-- A block is the same without its margin wherever it stands. -/
theorem dedent_moved (blank : w.all isMargin = true) {cs cs' : List Char}
    (moved : List.Forall₂ (Moved w) (splitAt '\n' cs) (splitAt '\n' cs')) : dedent cs' = dedent cs := by
  rw [dedent_eq, dedent_eq, map_withoutMargin_moved moved]
  intro l hl ink
  have there : l ∈ inked (splitAt '\n' cs) := List.mem_filter.mpr ⟨hl, by rw [ink]; rfl⟩
  exact ⟨margin_moved blank moved (List.ne_nil_of_mem there), margin_prefix there⟩

end Moving

/-- A block that is moved to the right, every line by the same spaces and tabs, becomes the same function: trimmed and
without its margin it is the same text, so it is an expression if it was one. -/
theorem wrap_of_moved {w : List Char} (blank : w.all isMargin = true) {code code' : String}
    (moved : MovedBy w code code') (start : String) :
    source code' = source code ∧ wrap start code' = wrap start code := by
  have same : source code' = source code := congrArg trim (dedent_moved blank moved)
  refine ⟨same, ?_⟩
  unfold wrap
  rw [same]

/-- Lines that begin with different mixtures of tabs and spaces, with a blank line between them. -/
theorem wrap_of_moved_mixed :
    " \t".toList.all isMargin = true ∧ MovedBy " \t".toList "\tif x:\n\t  \n\t y" " \t\tif x:\n\n \t\t y" ∧
      wrap "base_function." " \t\tif x:\n\n \t\t y" =
        "async def __ai_cmd_code_step__():\n    if x:\n\n     y\n" := by
  have moved : MovedBy " \t".toList "\tif x:\n\t  \n\t y" " \t\tif x:\n\n \t\t y" := by
    have first : splitAt '\n' "\tif x:\n\t  \n\t y".toList = ["\tif x:".toList, "\t  ".toList, "\t y".toList] := by
      decide +kernel
    have second : splitAt '\n' " \t\tif x:\n\n \t\t y".toList = [" \t\tif x:".toList, [], " \t\t y".toList] := by
      decide +kernel
    rw [MovedBy, first, second]
    exact .cons (.inr ⟨by decide, by decide⟩) (.cons (.inl ⟨by decide, by decide⟩)
      (.cons (.inr ⟨by decide, by decide⟩) .nil))
  refine ⟨by decide, moved, ?_⟩
  rw [(wrap_of_moved (by decide) moved "base_function.").2]
  decide +kernel

end Stepwise.Code
