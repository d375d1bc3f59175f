/-!
Blank characters and trimming. Blanks are the spaces and line separators of every script, with the
four information separators; a zero-width space is not one of them.
-/

namespace Stepwise.Text

/-- Whether a character is blank. -/
def isBlank (c : Char) : Bool :=
  let n := c.toNat
  (0x09 ≤ n && n ≤ 0x0D) || (0x1C ≤ n && n ≤ 0x20) || n == 0x85 || n == 0xA0 || n == 0x1680 ||
    (0x2000 ≤ n && n ≤ 0x200A) || n == 0x2028 || n == 0x2029 || n == 0x202F || n == 0x205F ||
    n == 0x3000

/-- The text without what `p` holds of at its end. -/
def dropEndWhile (p : Char → Bool) (cs : List Char) : List Char :=
  (cs.reverse.dropWhile p).reverse

/-- The text without leading blanks. -/
def trimStart (cs : List Char) : List Char := cs.dropWhile isBlank

/-- The text without trailing blanks. -/
def trimEnd (cs : List Char) : List Char := dropEndWhile isBlank cs

/-- The text without blanks at either end. -/
def trim (cs : List Char) : List Char := trimEnd (trimStart cs)

/-- A string without blanks at either end. -/
def trimmed (s : String) : String := String.ofList (trim s.toList)

/-- Whether a string has only blanks. -/
def isBlankText (s : String) : Bool := s.toList.all isBlank

theorem trimStart_of_not_blank {c : Char} (h : isBlank c = false) (cs : List Char) :
    trimStart (c :: cs) = c :: cs := by
  simp [trimStart, List.dropWhile, h]

theorem trimStart_eq_nil_iff {cs : List Char} : trimStart cs = [] ↔ cs.all isBlank = true := by
  induction cs with
  | nil => simp [trimStart]
  | cons c rest ih => cases h : isBlank c <;> simp_all [trimStart]

theorem trimEnd_reverse (cs : List Char) : trimEnd cs.reverse = (trimStart cs).reverse := by
  simp [trimEnd, dropEndWhile, trimStart]

theorem head?_trimStart {cs : List Char} {c : Char} (h : (trimStart cs).head? = some c) :
    isBlank c = false := by
  have := List.head?_dropWhile_not isBlank cs
  rw [show List.dropWhile isBlank cs = trimStart cs from rfl, h] at this
  simpa using this

/-- Trimming at the end takes nothing but blanks. -/
theorem exists_trimEnd_append (cs : List Char) : ∃ bs, bs.all isBlank = true ∧ trimEnd cs ++ bs = cs := by
  refine ⟨(cs.reverse.takeWhile isBlank).reverse, ?_, ?_⟩
  · simp only [List.all_reverse]
    exact List.all_takeWhile
  · rw [trimEnd, dropEndWhile, ← List.reverse_append, List.takeWhile_append_dropWhile, List.reverse_reverse]

theorem exists_trimStart_append (cs : List Char) : ∃ bs, bs.all isBlank = true ∧ bs ++ trimStart cs = cs :=
  ⟨cs.takeWhile isBlank, List.all_takeWhile, List.takeWhile_append_dropWhile⟩

theorem trimStart_trimStart (cs : List Char) : trimStart (trimStart cs) = trimStart cs := by
  cases h : trimStart cs with
  | nil => rfl
  | cons c rest => exact trimStart_of_not_blank (head?_trimStart (by rw [h]; rfl)) rest

theorem trimEnd_trimEnd (cs : List Char) : trimEnd (trimEnd cs) = trimEnd cs := by
  have h := trimEnd_reverse (trimStart cs.reverse)
  rw [trimStart_trimStart] at h
  exact h

/-- A text that begins with no blank begins the same without the blanks at its end. -/
theorem trimStart_trimEnd {cs : List Char} (h : trimStart cs = cs) : trimStart (trimEnd cs) = trimEnd cs := by
  cases he : trimEnd cs with
  | nil => rfl
  | cons c rest =>
    obtain ⟨bs, _, happ⟩ := exists_trimEnd_append cs
    rw [he, List.cons_append] at happ
    have hc : isBlank c = false := head?_trimStart (by rw [h, ← happ]; rfl)
    exact trimStart_of_not_blank hc rest

theorem trim_trim (cs : List Char) : trim (trim cs) = trim cs := by
  rw [trim, trim, trimStart_trimEnd (trimStart_trimStart cs), trimEnd_trimEnd]

theorem trimStart_append_left {bs : List Char} (h : bs.all isBlank = true) (cs : List Char) :
    trimStart (bs ++ cs) = trimStart cs :=
  List.dropWhile_append_of_pos (List.all_eq_true.mp h)

theorem trimEnd_append_right (cs : List Char) {bs : List Char} (h : bs.all isBlank = true) :
    trimEnd (cs ++ bs) = trimEnd cs := by
  have flipped : trimStart (bs.reverse ++ cs.reverse) = trimStart cs.reverse :=
    trimStart_append_left (by simpa using h) cs.reverse
  rw [← List.reverse_append] at flipped
  have := congrArg List.reverse flipped
  rwa [← trimEnd_reverse, ← trimEnd_reverse, List.reverse_reverse, List.reverse_reverse] at this

/-- Trimming at the start does not reach beyond a text that is not blank. -/
theorem trimStart_append_of_not_blank {cs : List Char} (h : cs.all isBlank = false) (ds : List Char) :
    trimStart (cs ++ ds) = trimStart cs ++ ds := by
  have kept : trimStart cs ≠ [] := by simp [trimStart_eq_nil_iff, h]
  rw [trimStart, List.dropWhile_append, if_neg (by simpa [trimStart] using kept)]
  rfl

/-- Blanks around a text are trimmed with those that it has itself. -/
theorem trim_append {bs bs' : List Char} (h : bs.all isBlank = true) (h' : bs'.all isBlank = true)
    (cs : List Char) : trim (bs ++ cs ++ bs') = trim cs := by
  rw [trim, List.append_assoc, trimStart_append_left h, trim]
  cases blank : cs.all isBlank with
  | true =>
    have none : trimStart (cs ++ bs') = [] := by simp [trimStart_eq_nil_iff, blank, h']
    rw [none, trimStart_eq_nil_iff.mpr blank]
  | false => rw [trimStart_append_of_not_blank blank, trimEnd_append_right _ h']

theorem trimStart_eq_self_iff {cs : List Char} :
    trimStart cs = cs ↔ ∀ c ∈ cs.head?, isBlank c = false := by
  refine ⟨fun h c first => head?_trimStart (by rwa [h]), fun h => ?_⟩
  cases cs with
  | nil => rfl
  | cons c rest => exact trimStart_of_not_blank (h c rfl) rest

theorem trimEnd_eq_self_iff {cs : List Char} :
    trimEnd cs = cs ↔ ∀ c ∈ cs.getLast?, isBlank c = false := by
  have flipped : trimEnd cs = (trimStart cs.reverse).reverse := by
    rw [← trimEnd_reverse, List.reverse_reverse]
  rw [flipped, List.reverse_eq_iff, trimStart_eq_self_iff, List.head?_reverse]

/-- A text is trimmed if there is no blank at either end. -/
theorem trim_eq_self_iff {cs : List Char} : trim cs = cs ↔
    (∀ c ∈ cs.head?, isBlank c = false) ∧ ∀ c ∈ cs.getLast?, isBlank c = false := by
  rw [← trimStart_eq_self_iff, ← trimEnd_eq_self_iff]
  constructor
  · intro h
    have last := trimEnd_trimEnd (trimStart cs)
    have start := trimStart_trimEnd (trimStart_trimStart cs)
    rw [← trim, h] at last start
    exact ⟨start, last⟩
  · rintro ⟨start, last⟩
    rw [trim, start, last]

end Stepwise.Text
