import Stepwise.Proofs.JsonTokens

/-!
Reading JSON text that was written for a value. The two layouts differ only in the blanks between tokens, and
reading does not depend on them: whatever blanks a layout has, the value is read back, if it has no
floating-point numbers, its integers are not too long, its nesting is not too deep, and no object has two
members of one name.
-/

namespace Stepwise.Json

/-- Where a layout has blanks: behind an opening and before a closing bracket, behind a comma, all by the
level of nesting, and behind a colon. -/
structure Layout where
  opening : ℕ → List Char
  closing : ℕ → List Char
  comma : ℕ → List Char
  colon : List Char

/-- The layout on one line. -/
def Layout.flat : Layout := ⟨fun _ => [], fun _ => [], fun _ => [' '], [' ']⟩

/-- The layout over several lines. -/
def Layout.indented : Layout := ⟨fun n => lineBreak (n + 1), lineBreak, lineBreak, [' ']⟩

/-- A layout that has only blanks. -/
structure Layout.Spaced (l : Layout) : Prop where
  opening : ∀ n, ∀ c ∈ l.opening n, isSpace c = true
  closing : ∀ n, ∀ c ∈ l.closing n, isSpace c = true
  comma : ∀ n, ∀ c ∈ l.comma n, isSpace c = true
  colon : ∀ c ∈ l.colon, isSpace c = true

theorem Layout.spaced_flat : Layout.flat.Spaced := by
  constructor <;> simp [flat, isSpace]

theorem isSpace_of_mem_lineBreak {n : ℕ} {c : Char} (h : c ∈ lineBreak n) : isSpace c = true := by
  rcases List.mem_cons.mp h with rfl | h
  · rfl
  · rw [(List.mem_replicate.mp h).2]
    rfl

theorem Layout.spaced_indented : Layout.indented.Spaced :=
  ⟨fun _ _ => isSpace_of_mem_lineBreak, fun _ _ => isSpace_of_mem_lineBreak,
    fun _ _ => isSpace_of_mem_lineBreak, by simp [indented, isSpace]⟩

mutual

/-- A value in a layout, at a level of nesting. -/
def written (l : Layout) (level : ℕ) : Value → List Char
  | .list (v :: vs) =>
    '[' :: l.opening level ++ writtenItems l (level + 1) (v :: vs) ++ l.closing level ++ [']']
  | .object (m :: ms) =>
    '\x7b' :: l.opening level ++ writtenMembers l (level + 1) (m :: ms) ++ l.closing level ++ ['\x7d']
  | v => compact v

def writtenItems (l : Layout) (level : ℕ) : List Value → List Char
  | [] => []
  | [v] => written l level v
  | v :: w :: vs => written l level v ++ ',' :: l.comma level ++ writtenItems l level (w :: vs)

def writtenMembers (l : Layout) (level : ℕ) : List (String × Value) → List Char
  | [] => []
  | [(k, v)] => string k ++ ':' :: l.colon ++ written l level v
  | (k, v) :: m :: ms =>
    string k ++ ':' :: l.colon ++ written l level v ++ ',' :: l.comma level ++
      writtenMembers l level (m :: ms)

end

mutual

/-- A value is printed on one line in the flat layout. -/
theorem written_flat (level : ℕ) (v : Value) : written .flat level v = compact v := by
  cases v with
  | list vs =>
    cases vs with
    | nil => rfl
    | cons v vs =>
      rw [written, writtenItems_flat (level + 1) (v :: vs)]
      simp [compact, Layout.flat]
  | object ms =>
    cases ms with
    | nil => rfl
    | cons m ms =>
      rw [written, writtenMembers_flat (level + 1) (m :: ms)]
      simp [compact, Layout.flat]
  | _ => rfl

theorem writtenItems_flat (level : ℕ) (vs : List Value) :
    writtenItems .flat level vs = compactItems vs := by
  cases vs with
  | nil => rfl
  | cons v vs =>
    have first := written_flat level v
    cases vs with
    | nil => rw [writtenItems, first, compactItems]
    | cons w vs =>
      rw [writtenItems, first, writtenItems_flat level (w :: vs)]
      simp [compactItems, Layout.flat]

theorem writtenMembers_flat (level : ℕ) (ms : List (String × Value)) :
    writtenMembers .flat level ms = compactMembers ms := by
  cases ms with
  | nil => rfl
  | cons m ms =>
    obtain ⟨k, v⟩ := m
    have first := written_flat level v
    cases ms with
    | nil =>
      rw [writtenMembers, first]
      simp [compactMembers, Layout.flat]
    | cons n ms =>
      rw [writtenMembers, first, writtenMembers_flat level (n :: ms)]
      simp [compactMembers, Layout.flat]

end

mutual

/-- A value is printed over several lines in the indented layout. -/
theorem written_indented (level : ℕ) (v : Value) : written .indented level v = spread level v := by
  cases v with
  | list vs =>
    cases vs with
    | nil => rfl
    | cons v vs =>
      rw [written, writtenItems_indented (level + 1) (v :: vs)]
      rfl
  | object ms =>
    cases ms with
    | nil => rfl
    | cons m ms =>
      rw [written, writtenMembers_indented (level + 1) (m :: ms)]
      rfl
  | _ => rfl

theorem writtenItems_indented (level : ℕ) (vs : List Value) :
    writtenItems .indented level vs = spreadItems level vs := by
  cases vs with
  | nil => rfl
  | cons v vs =>
    have first := written_indented level v
    cases vs with
    | nil => rw [writtenItems, first, spreadItems]
    | cons w vs =>
      rw [writtenItems, first, writtenItems_indented level (w :: vs)]
      rfl

theorem writtenMembers_indented (level : ℕ) (ms : List (String × Value)) :
    writtenMembers .indented level ms = spreadMembers level ms := by
  cases ms with
  | nil => rfl
  | cons m ms =>
    obtain ⟨k, v⟩ := m
    have first := written_indented level v
    cases ms with
    | nil =>
      rw [writtenMembers, first]
      simp [spreadMembers, Layout.indented]
    | cons n ms =>
      rw [writtenMembers, first, writtenMembers_indented level (n :: ms)]
      simp [spreadMembers, Layout.indented]

end

mutual

/-- A value that its text can give back: without floating-point numbers and handles, with integers that are
not too long, and with different names in each object. -/
def Readable : Value → Prop
  | .null => True
  | .bool _ => True
  | .int i => (Nat.toDigits 10 i.natAbs).length ≤ Numeral.limit
  | .double _ => False
  | .text _ => True
  | .list vs => ReadableItems vs
  | .object ms => (ms.map (·.1)).Nodup ∧ ReadableMembers ms
  | .handle _ => False

def ReadableItems : List Value → Prop
  | [] => True
  | v :: vs => Readable v ∧ ReadableItems vs

def ReadableMembers : List (String × Value) → Prop
  | [] => True
  | (_, v) :: ms => Readable v ∧ ReadableMembers ms

end

mutual

/-- How deeply lists and objects are nested in a value. -/
def nesting : Value → ℕ
  | .list vs => nestingItems vs + 1
  | .object ms => nestingMembers ms + 1
  | _ => 0

def nestingItems : List Value → ℕ
  | [] => 0
  | v :: vs => max (nesting v) (nestingItems vs)

def nestingMembers : List (String × Value) → ℕ
  | [] => 0
  | (_, v) :: ms => max (nesting v) (nestingMembers ms)

end

theorem skipSpace_append {ws : List Char} (h : ∀ c ∈ ws, isSpace c = true) (cs : List Char) :
    skipSpace (ws ++ cs) = skipSpace cs :=
  List.dropWhile_append_of_pos h

theorem skipSpace_cons {c : Char} (h : isSpace c = false) (cs : List Char) :
    skipSpace (c :: cs) = c :: cs := by
  simp [skipSpace, List.dropWhile, h]

/-- A number ends where a mark between values follows. -/
theorem endsNumber_cons {c : Char} (mark : c ∈ [',', ']', '\x7d']) (rest : List Char) :
    EndsNumber (c :: rest) := by
  intro d first
  cases first
  simp only [List.mem_cons, List.not_mem_nil, or_false] at mark
  rcases mark with rfl | rfl | rfl <;> decide

theorem endsNumber_append {ws : List Char} (blank : ∀ c ∈ ws, isSpace c = true) {c : Char}
    (mark : c ∈ [',', ']', '\x7d']) (rest : List Char) : EndsNumber (ws ++ c :: rest) := by
  cases ws with
  | nil => exact endsNumber_cons mark rest
  | cons d ws =>
    intro _ first
    cases first
    have space := blank d List.mem_cons_self
    simp only [isSpace, Bool.or_eq_true, beq_iff_eq] at space
    rcases space with ((rfl | rfl) | rfl) | rfl <;> decide

/-- What a token begins with. -/
structure Begins (c : Char) : Prop where
  visible : isSpace c = false
  bracket : c ≠ ']'
  mark : c.toNat ≠ 0xFEFF

theorem begins_of_mem {c : Char} (h : c ∈ ['n', 'f', 't', '-', '"', '[', '\x7b']) : Begins c := by
  simp only [List.mem_cons, List.not_mem_nil, or_false] at h
  rcases h with rfl | rfl | rfl | rfl | rfl | rfl | rfl <;> exact ⟨by decide, by decide, by decide⟩

theorem begins_of_isDigit {c : Char} (digit : c.isDigit = true) : Begins c := by
  have range := Char.isDigit_iff_toNat.mp digit
  simp only [Char.reduceToNat] at range
  refine ⟨?_, Ne.symm (ne_of_isDigit digit (by decide)), by omega⟩
  have other : ∀ {d : Char}, d.isDigit = false → c ≠ d := fun h => Ne.symm (ne_of_isDigit digit h)
  simp [isSpace, @other ' ' rfl, @other '\n' rfl, @other '\r' rfl, @other '\t' rfl]

theorem exists_integer_eq_cons (i : Int) :
    ∃ c cs, integer i = c :: cs ∧ (c = '-' ∨ c.isDigit = true) := by
  obtain ⟨c, digits, eq, digit⟩ := Numeral.exists_toDigits_eq_cons i.natAbs
  unfold integer
  split
  · exact ⟨'-', _, rfl, .inl rfl⟩
  · exact ⟨c, digits, eq, .inr digit⟩

theorem exists_written_eq_cons (l : Layout) (level : ℕ) {v : Value} (readable : Readable v) :
    ∃ c cs, written l level v = c :: cs ∧ Begins c := by
  cases v with
  | null => exact ⟨'n', _, rfl, begins_of_mem (by decide)⟩
  | bool b =>
    cases b with
    | false => exact ⟨'f', _, rfl, begins_of_mem (by decide)⟩
    | true => exact ⟨'t', _, rfl, begins_of_mem (by decide)⟩
  | int i =>
    obtain ⟨c, cs, eq, first⟩ := exists_integer_eq_cons i
    refine ⟨c, cs, eq, ?_⟩
    rcases first with rfl | digit
    · exact begins_of_mem (by decide)
    · exact begins_of_isDigit digit
  | double d => exact readable.elim
  | text s => exact ⟨'"', _, rfl, begins_of_mem (by decide)⟩
  | list vs =>
    cases vs with
    | nil => exact ⟨'[', _, rfl, begins_of_mem (by decide)⟩
    | cons v vs =>
      rw [written]
      exact ⟨'[', _, rfl, begins_of_mem (by decide)⟩
  | object ms =>
    cases ms with
    | nil => exact ⟨'\x7b', _, rfl, begins_of_mem (by decide)⟩
    | cons m ms =>
      rw [written]
      exact ⟨'\x7b', _, rfl, begins_of_mem (by decide)⟩
  | handle label => exact readable.elim

theorem exists_writtenItems_eq_cons (l : Layout) (level : ℕ) {v : Value} (vs : List Value)
    (readable : Readable v) : ∃ c cs, writtenItems l level (v :: vs) = c :: cs ∧ Begins c := by
  obtain ⟨c, cs, eq, begins⟩ := exists_written_eq_cons l level readable
  cases vs with
  | nil => exact ⟨c, cs, by rw [writtenItems, eq], begins⟩
  | cons w vs =>
    rw [writtenItems, eq]
    exact ⟨c, _, rfl, begins⟩

theorem exists_writtenMembers_eq_cons (l : Layout) (level : ℕ) (m : String × Value)
    (ms : List (String × Value)) : ∃ cs, writtenMembers l level (m :: ms) = '"' :: cs := by
  cases ms with
  | nil =>
    rw [writtenMembers]
    exact ⟨_, rfl⟩
  | cons n ms =>
    rw [writtenMembers]
    exact ⟨_, rfl⟩

theorem value_of_atom {fuel depth : ℕ} {c : Char} {cs : List Char} (quote : c ≠ '"') (bracket : c ≠ '[')
    (brace : c ≠ '\x7b') : value (fuel + 1) depth (c :: cs) = atom (c :: cs) := by
  simp [value, quote, bracket, brace]

theorem value_integer {fuel depth : ℕ} {i : Int} {rest : List Char}
    (short : (Nat.toDigits 10 i.natAbs).length ≤ Numeral.limit) (ended : EndsNumber rest) :
    value (fuel + 1) depth (integer i ++ rest) = .ok (.int i, rest) := by
  have read := atom_integer short ended
  obtain ⟨c, cs, eq, first⟩ := exists_integer_eq_cons i
  rw [eq, List.cons_append] at read ⊢
  rcases first with rfl | digit
  · rw [value_of_atom (by decide) (by decide) (by decide), read]
  · rw [value_of_atom (Ne.symm (ne_of_isDigit digit (by decide)))
      (Ne.symm (ne_of_isDigit digit (by decide))) (Ne.symm (ne_of_isDigit digit (by decide))), read]

theorem value_string {fuel depth : ℕ} (s : String) (rest : List Char) :
    value (fuel + 1) depth (string s ++ rest) = .ok (.text s, rest) := by
  simp [string, value, stringBody_string, Except.map]

theorem value_empty_list {fuel depth : ℕ} (room : depth < depthLimit) (rest : List Char) :
    value (fuel + 1) depth ('[' :: ']' :: rest) = .ok (.list [], rest) := by
  rw [value, if_neg (by omega), skipSpace_cons (by decide)]
  rfl

theorem value_empty_object {fuel depth : ℕ} (room : depth < depthLimit) (rest : List Char) :
    value (fuel + 1) depth ('\x7b' :: '\x7d' :: rest) = .ok (.object [], rest) := by
  rw [value, if_neg (by omega), skipSpace_cons (by decide)]
  rfl

theorem assign_of_notMem {key : String} {v : Value} {members : List (String × Value)}
    (h : key ∉ members.map (·.1)) : Value.assign key v members = members ++ [(key, v)] := by
  induction members with
  | nil => rfl
  | cons m members ih =>
    obtain ⟨k, w⟩ := m
    simp only [List.map_cons, List.mem_cons, not_or] at h
    rw [Value.assign, if_neg (Ne.symm h.1), ih h.2, List.cons_append]

section

variable {fuel depth : ℕ} {ws : List Char} (blank : ∀ c ∈ ws, isSpace c = true)

include blank

/-- A list is read by its items. -/
theorem value_of_items {c : Char} {cs rest : List Char} {vs : List Value} (room : depth < depthLimit)
    (begins : Begins c) (read : items fuel (depth + 1) (c :: cs) = .ok (vs, rest)) :
    value (fuel + 1) depth ('[' :: (ws ++ c :: cs)) = .ok (.list vs, rest) := by
  have other := begins.bracket
  rw [value, if_neg (by omega), skipSpace_append blank, skipSpace_cons begins.visible]
  simp [read, other]

/-- An object is read by its members. -/
theorem value_of_members {cs rest : List Char} {ms : List (String × Value)} (room : depth < depthLimit)
    (read : members fuel (depth + 1) [] ('"' :: cs) = .ok (ms, rest)) :
    value (fuel + 1) depth ('\x7b' :: (ws ++ '"' :: cs)) = .ok (.object ms, rest) := by
  rw [value, if_neg (by omega), skipSpace_append blank, skipSpace_cons (by decide)]
  simp [read]

theorem items_of_last {cs rest : List Char} {v : Value}
    (first : value fuel depth cs = .ok (v, ws ++ ']' :: rest)) :
    items (fuel + 1) depth cs = .ok ([v], rest) := by
  simp [items, first, skipSpace_append blank, skipSpace_cons (c := ']') (by decide)]

theorem items_of_next {cs cs' rest : List Char} {c : Char} {v : Value} {vs : List Value}
    (first : value fuel depth cs = .ok (v, ',' :: (ws ++ c :: cs'))) (begins : Begins c)
    (next : items fuel depth (c :: cs') = .ok (vs, rest)) :
    items (fuel + 1) depth cs = .ok (v :: vs, rest) := by
  simp [items, first, skipSpace_cons (c := ',') (by decide), skipSpace_append blank,
    skipSpace_cons begins.visible, next]

theorem members_of_last {colon : List Char} (blank' : ∀ c ∈ colon, isSpace c = true) (k : String) {c : Char}
    {cs rest : List Char} {v : Value} {read : List (String × Value)} (begins : Begins c)
    (first : value fuel depth (c :: cs) = .ok (v, ws ++ '\x7d' :: rest)) :
    members (fuel + 1) depth read (string k ++ ':' :: (colon ++ c :: cs)) =
      .ok (Value.assign k v read, rest) := by
  simp [string, members, stringBody_string, skipSpace_cons (c := ':') (by decide), skipSpace_append blank',
    skipSpace_cons begins.visible, first, skipSpace_append blank, skipSpace_cons (c := '\x7d') (by decide)]

theorem members_of_next {colon : List Char} (blank' : ∀ c ∈ colon, isSpace c = true) (k : String) {c : Char}
    {cs cs' rest : List Char} {v : Value} {read ms : List (String × Value)} (begins : Begins c)
    (first : value fuel depth (c :: cs) = .ok (v, ',' :: (ws ++ '"' :: cs')))
    (next : members fuel depth (Value.assign k v read) ('"' :: cs') = .ok (ms, rest)) :
    members (fuel + 1) depth read (string k ++ ':' :: (colon ++ c :: cs)) = .ok (ms, rest) := by
  simp [string, members, stringBody_string, skipSpace_cons (c := ':') (by decide), skipSpace_append blank',
    skipSpace_cons begins.visible, first, skipSpace_cons (c := ',') (by decide), skipSpace_append blank,
    skipSpace_cons (c := '"') (by decide), next]

end

-- By induction on the value. Two units of fuel for each character are enough: one is spent on an item and one
-- on the list that it stands in, and both begin with a character of their own.
mutual

/-- A value is read back from its text, up to whatever follows it. -/
theorem value_written {l : Layout} (spaced : l.Spaced) (v : Value) (readable : Readable v)
    (level fuel depth : ℕ) (rest : List Char) (enough : 2 * (written l level v).length ≤ fuel)
    (shallow : depth + nesting v ≤ depthLimit) (ended : EndsNumber rest) :
    value fuel depth (written l level v ++ rest) = .ok (v, rest) := by
  obtain ⟨fuel, rfl⟩ : ∃ n, fuel = n + 1 := by
    obtain ⟨c, cs, eq, -⟩ := exists_written_eq_cons l level readable
    rw [eq, List.length_cons] at enough
    exact ⟨fuel - 1, by omega⟩
  cases v with
  | null => exact value_of_atom (by decide) (by decide) (by decide)
  | bool b =>
    cases b with
    | false => exact value_of_atom (by decide) (by decide) (by decide)
    | true => exact value_of_atom (by decide) (by decide) (by decide)
  | int i => exact value_integer readable ended
  | double d => exact readable.elim
  | text s => exact value_string s rest
  | list vs =>
    have room : depth < depthLimit := by
      simp only [nesting] at shallow
      omega
    cases vs with
    | nil => exact value_empty_list room rest
    | cons v vs =>
      rw [written] at enough ⊢
      have read := items_written spaced v vs readable (level + 1) fuel (depth + 1) (spaced.closing level) rest
        (by simp only [List.length_cons, List.length_append] at enough; omega)
        (by simp only [nesting] at shallow; omega)
      obtain ⟨c, cs, eq, begins⟩ := exists_writtenItems_eq_cons l (level + 1) vs readable.1
      rw [eq] at read ⊢
      simpa using value_of_items (spaced.opening level) room begins read
  | object ms =>
    have room : depth < depthLimit := by
      simp only [nesting] at shallow
      omega
    cases ms with
    | nil => exact value_empty_object room rest
    | cons m ms =>
      cases m with
      | mk k v =>
        rw [written] at enough ⊢
        have read := members_written spaced k v ms readable.2 [] readable.1 (level + 1) fuel (depth + 1)
          (spaced.closing level) rest
          (by simp only [List.length_cons, List.length_append] at enough; omega)
          (by simp only [nesting] at shallow; omega)
        obtain ⟨cs, eq⟩ := exists_writtenMembers_eq_cons l (level + 1) (k, v) ms
        rw [eq] at read ⊢
        simpa using value_of_members (spaced.opening level) room read
  | handle label => exact readable.elim
termination_by sizeOf v
decreasing_by
  all_goals
    subst_vars
    simp only [Value.list.sizeOf_spec, Value.object.sizeOf_spec]
    omega

theorem items_written {l : Layout} (spaced : l.Spaced) (v : Value) (vs : List Value)
    (readable : ReadableItems (v :: vs)) (level fuel depth : ℕ) {ws : List Char}
    (blank : ∀ c ∈ ws, isSpace c = true) (rest : List Char)
    (enough : 2 * (writtenItems l level (v :: vs)).length + 1 ≤ fuel)
    (shallow : depth + nestingItems (v :: vs) ≤ depthLimit) :
    items fuel depth (writtenItems l level (v :: vs) ++ (ws ++ ']' :: rest)) = .ok (v :: vs, rest) := by
  obtain ⟨fuel, rfl⟩ : ∃ n, fuel = n + 1 := ⟨fuel - 1, by omega⟩
  rw [nestingItems] at shallow
  cases vs with
  | nil =>
    rw [writtenItems] at enough ⊢
    have first := value_written spaced v readable.1 level fuel depth (ws ++ ']' :: rest) (by omega) (by omega)
      (endsNumber_append blank (by decide) rest)
    exact items_of_last blank first
  | cons w vs =>
    rw [writtenItems] at enough ⊢
    simp only [List.length_append, List.length_cons] at enough
    have next := items_written spaced w vs readable.2 level fuel depth blank rest (by omega) (by omega)
    obtain ⟨c, cs, eq, begins⟩ := exists_writtenItems_eq_cons l level vs readable.2.1
    rw [eq] at next ⊢
    have first := value_written spaced v readable.1 level fuel depth
      (',' :: (l.comma level ++ c :: cs ++ (ws ++ ']' :: rest))) (by omega) (by omega)
      (endsNumber_cons (by decide) _)
    simp only [List.append_assoc, List.cons_append] at first next ⊢
    exact items_of_next (spaced.comma level) first begins next
termination_by sizeOf (v :: vs)
decreasing_by
  all_goals
    subst_vars
    simp only [List.cons.sizeOf_spec]
    omega

/-- The members of an object are read back behind those that were read before them. -/
theorem members_written {l : Layout} (spaced : l.Spaced) (k : String) (v : Value) (ms : List (String × Value))
    (readable : ReadableMembers ((k, v) :: ms)) (read : List (String × Value))
    (distinct : ((read ++ (k, v) :: ms).map (·.1)).Nodup) (level fuel depth : ℕ) {ws : List Char}
    (blank : ∀ c ∈ ws, isSpace c = true) (rest : List Char)
    (enough : 2 * (writtenMembers l level ((k, v) :: ms)).length + 1 ≤ fuel)
    (shallow : depth + nestingMembers ((k, v) :: ms) ≤ depthLimit) :
    members fuel depth read (writtenMembers l level ((k, v) :: ms) ++ (ws ++ '\x7d' :: rest)) =
      .ok (read ++ (k, v) :: ms, rest) := by
  obtain ⟨fuel, rfl⟩ : ∃ n, fuel = n + 1 := ⟨fuel - 1, by omega⟩
  rw [nestingMembers] at shallow
  have fresh : k ∉ read.map (·.1) := by
    rw [List.map_append, List.nodup_append] at distinct
    exact fun member => distinct.2.2 k member k List.mem_cons_self rfl
  -- The name is new among those that were read, so the member comes behind them.
  have assigned : Value.assign k v read = read ++ [(k, v)] := assign_of_notMem fresh
  obtain ⟨c, cs, eq, begins⟩ := exists_written_eq_cons l level readable.1
  cases ms with
  | nil =>
    rw [writtenMembers] at enough ⊢
    simp only [List.length_append, List.length_cons] at enough
    have first := value_written spaced v readable.1 level fuel depth (ws ++ '\x7d' :: rest) (by omega) (by omega)
      (endsNumber_append blank (by decide) rest)
    rw [eq] at first ⊢
    have all : members (fuel + 1) depth read (string k ++ ':' :: (l.colon ++ (c :: cs ++ (ws ++ '\x7d' :: rest)))) =
      .ok (Value.assign k v read, rest) := members_of_last blank spaced.colon k begins first
    rw [assigned] at all
    simpa using all
  | cons n ms =>
    cases n with
    | mk k' v' =>
      rw [writtenMembers] at enough ⊢
      simp only [List.length_append, List.length_cons] at enough
      have next := members_written spaced k' v' ms readable.2 (read ++ [(k, v)]) (by simpa using distinct) level
        fuel depth blank rest (by omega) (by omega)
      obtain ⟨cs', eq'⟩ := exists_writtenMembers_eq_cons l level (k', v') ms
      rw [eq'] at next ⊢
      have first := value_written spaced v readable.1 level fuel depth
        (',' :: (l.comma level ++ '"' :: cs' ++ (ws ++ '\x7d' :: rest))) (by omega) (by omega)
        (endsNumber_cons (by decide) _)
      rw [eq] at first ⊢
      have joined := List.append_cons read (k, v) ((k', v') :: ms)
      rw [← joined, ← assigned] at next
      simp only [List.append_assoc, List.cons_append] at first next ⊢
      exact members_of_next (spaced.comma level) spaced.colon k begins first next
termination_by sizeOf ((k, v) :: ms)
decreasing_by
  all_goals
    subst_vars
    simp only [List.cons.sizeOf_spec, Prod.mk.sizeOf_spec]
    omega

end

section

variable {v : Value} (readable : Readable v) (shallow : nesting v ≤ depthLimit)

include readable shallow

/-- The text that was written for a value is read as that value. -/
theorem read_written {l : Layout} (spaced : l.Spaced) (level : ℕ) : read (written l level v) = .ok v := by
  have whole := value_written spaced v readable level (2 * (written l level v).length + 2) 0 [] (by omega)
    (by omega) (by rintro c ⟨⟩)
  rw [List.append_nil] at whole
  obtain ⟨c, cs, eq, begins⟩ := exists_written_eq_cons l level readable
  rw [eq] at whole ⊢
  have unmarked : ¬(c :: cs).head?.map (·.toNat) = some 0xFEFF := by
    simpa using begins.mark
  rw [read, if_neg unmarked, skipSpace_cons begins.visible, whole]
  rfl

theorem parse_print : parse (print v) = .ok v := by
  rw [parse, print, String.toList_ofList, ← written_flat 0]
  exact read_written readable shallow Layout.spaced_flat 0

theorem parse_printIndented : parse (printIndented v) = .ok v := by
  rw [parse, printIndented, String.toList_ofList, ← written_indented 0]
  exact read_written readable shallow Layout.spaced_indented 0

end

end Stepwise.Json
