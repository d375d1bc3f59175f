import Stepwise.Proofs.WrittenPlans

/-!
Items of a plan. An object is a step whatever stands for its kind, except for one thing: a text of digits that are no
decimal digits, or too many of them. Its contents are kept, and so is the value of an item that is no object: what is
no text is kept as its JSON text, from which it is read back.
-/

namespace Stepwise

namespace StepKind

theorem mem_all (k : StepKind) : k ∈ all := by
  cases k <;> decide

theorem number_inj {k k' : StepKind} (same : (k.number : Int) = k'.number) : k = k' := by
  have kinds := congrArg ofNumber same
  rwa [ofNumber_number, ofNumber_number] at kinds

/-- A number of no kind means a text answer. -/
theorem ofNumber_eq_iff {i : Int} {k : StepKind} :
    ofNumber i = k ↔ i = k.number ∨ k = .answer ∧ ∀ k' : StepKind, i ≠ k'.number := by
  cases found : all.find? fun k => (k.number : Int) == i with
  | some k' =>
    have same : (k'.number : Int) = i := by simpa using List.find?_some found
    have kind : ofNumber i = k' := by rw [ofNumber, found, Option.getD_some]
    rw [kind]
    constructor
    · rintro rfl
      exact .inl same.symm
    · rintro (rfl | ⟨-, none⟩)
      · exact number_inj same
      · exact absurd same.symm (none k')
  | none =>
    have other : ∀ k' : StepKind, i ≠ k'.number := by
      intro k' same
      have missed := List.find?_eq_none.mp found k' (mem_all k')
      simp [same] at missed
    have kind : ofNumber i = .answer := by rw [ofNumber, found, Option.getD_none]
    rw [kind]
    constructor
    · intro same
      exact .inr ⟨same.symm, other⟩
    · rintro (same | ⟨same, -⟩)
      · exact absurd same (other k)
      · exact same.symm

/-- The word that a text stands for, in whatever case and between whatever blanks it is written. -/
def word (s : String) : List Char := Text.lower (Text.trim s.toList)

/-- A text of nothing but digits in the wide sense. -/
def IsDigital (w : List Char) : Prop := w ≠ [] ∧ ∀ c ∈ w, Text.isDigitLike c = true

/-- A decimal numeral, of digits of any script. -/
def IsNumeral (w : List Char) : Prop := w ≠ [] ∧ (∀ c ∈ w, Text.isDecimal c = true) ∧ w.length ≤ Numeral.limit

/-- Which kind a value denotes: by its number, by the numeral for that, or by its name. -/
inductive Denotes : Value → StepKind → Prop
  | number (k : StepKind) : Denotes (.int k.number) k
  | whole {d : Double} {k : StepKind} (same : d.toInt? = some (k.number : Int)) : Denotes (.double d) k
  | truth : Denotes (.bool true) .answer
  | numeral {s : String} {k : StepKind} (digits : IsNumeral (word s)) (same : Text.numeral (word s) = k.number) :
      Denotes (.text s) k
  | name {s : String} {k : StepKind} (same : word s = k.name.toList) : Denotes (.text s) k

/-- The kind of a step whose kind is given by a value: what the value denotes, or else a text answer. -/
def Means (v : Value) (k : StepKind) : Prop := Denotes v k ∨ k = .answer ∧ ∀ k', ¬ Denotes v k'

/-- A text of digits that is no numeral. -/
def Unreadable (v : Value) : Prop := ∃ s, v = .text s ∧ IsDigital (word s) ∧ ¬ IsNumeral (word s)

theorem isDigital_of_isNumeral {w : List Char} (numeral : IsNumeral w) : IsDigital w := by
  refine ⟨numeral.1, fun c member => ?_⟩
  rw [Text.isDigitLike, numeral.2.1 c member, Bool.true_or]

theorem isDigital_iff {w : List Char} : (!w.isEmpty && w.all Text.isDigitLike) = true ↔ IsDigital w := by
  rw [Bool.and_eq_true, Bool.not_eq_true', List.isEmpty_eq_false_iff, List.all_eq_true, IsDigital]

/-- No kind has a name of digits. -/
theorem not_isDigital_name (k : StepKind) : ¬ IsDigital k.name.toList := by
  rw [← isDigital_iff]
  cases k <;> decide

theorem name_inj {k k' : StepKind} (same : k.name.toList = k'.name.toList) : k = k' := by
  cases k <;> cases k' <;> first | rfl | exact absurd same (by decide)

theorem find?_name {w : List Char} {k : StepKind} (same : w = k.name.toList) :
    (all.find? fun k => k.name.toList == w) = some k := by
  cases found : all.find? fun k => k.name.toList == w with
  | some k' =>
    have named : k'.name.toList = w := by simpa using List.find?_some found
    rw [name_inj (named.trans same)]
  | none =>
    have missed := List.find?_eq_none.mp found k (mem_all k)
    simp [same] at missed

theorem find?_name_eq_none {w : List Char} (other : ∀ k : StepKind, w ≠ k.name.toList) :
    (all.find? fun k => k.name.toList == w) = none := by
  apply List.find?_eq_none.mpr
  intro k _ same
  exact other k (by simpa using Eq.symm (by simpa using same))

section

variable {s : String}

theorem ofText_of_name {k : StepKind} (same : word s = k.name.toList) : ofText s = some k := by
  have found := find?_name same
  rw [word] at found
  simp only [ofText, found]

theorem ofText_of_isNumeral (numeral : IsNumeral (word s)) : ofText s = some (ofNumber (Text.numeral (word s))) := by
  have digital := isDigital_of_isNumeral numeral
  have unnamed := find?_name_eq_none fun k same => not_isDigital_name k (same ▸ digital)
  have digits := isDigital_iff.mpr digital
  have decimals := List.all_eq_true.mpr numeral.2.1
  have short := Nat.not_lt.mpr numeral.2.2
  rw [word] at unnamed digits decimals short
  simp only [ofText, unnamed, digits, decimals, Numeral.read, if_neg short, if_true, word]

theorem ofText_eq_none (digital : IsDigital (word s)) (other : ¬ IsNumeral (word s)) : ofText s = none := by
  have unnamed := find?_name_eq_none fun k same => not_isDigital_name k (same ▸ digital)
  have digits := isDigital_iff.mpr digital
  by_cases decimal : (word s).all Text.isDecimal = true
  · have long : Numeral.limit < (word s).length := by
      by_contra short
      exact other ⟨digital.1, List.all_eq_true.mp decimal, Nat.not_lt.mp short⟩
    rw [word] at unnamed digits decimal long
    simp only [ofText, unnamed, digits, decimal, Numeral.read, if_pos long, if_true]
  · rw [word] at unnamed digits decimal
    simp only [ofText, unnamed, digits, decimal, if_true]
    rfl

theorem ofText_of_other (other : ∀ k : StepKind, word s ≠ k.name.toList) (plain : ¬ IsDigital (word s)) :
    ofText s = some .answer := by
  have unnamed := find?_name_eq_none other
  have digits := mt isDigital_iff.mp plain
  rw [word] at unnamed digits
  simp only [ofText, unnamed, digits]
  rfl

end

/-- What denotes a kind among texts: a numeral and a name are never the same text. -/
theorem denotes_text_iff {s : String} {k : StepKind} : Denotes (.text s) k ↔
    IsNumeral (word s) ∧ (Text.numeral (word s) : Int) = k.number ∨ word s = k.name.toList := by
  constructor
  · intro denotes
    cases denotes with
    | numeral digits same => exact .inl ⟨digits, by rw [same]⟩
    | name same => exact .inr same
  · rintro (⟨digits, same⟩ | same)
    · exact .numeral digits (Int.ofNat_inj.mp same)
    · exact .name same

/-- No kind is given by a value only if it is a text of digits that is no numeral. -/
theorem ofValue_eq_none_iff {v : Value} : ofValue v = none ↔ Unreadable v := by
  constructor
  · intro none
    cases v with
    | text s =>
      refine ⟨s, rfl, ?_⟩
      have unread : ofText s = .none := none
      have digital : IsDigital (word s) := by
        by_contra plain
        by_cases named : ∃ k : StepKind, word s = k.name.toList
        · obtain ⟨k, same⟩ := named
          rw [ofText_of_name same] at unread
          cases unread
        · rw [ofText_of_other (not_exists.mp named) plain] at unread
          cases unread
      refine ⟨digital, fun numeral => ?_⟩
      rw [ofText_of_isNumeral numeral] at unread
      cases unread
    | _ => cases none
  · rintro ⟨s, rfl, digital, other⟩
    exact ofText_eq_none digital other

theorem exists_ofValue {v : Value} (readable : ¬ Unreadable v) : ∃ k, ofValue v = some k :=
  Option.ne_none_iff_exists'.mp (mt ofValue_eq_none_iff.mp readable)

theorem denotes_int_iff {i : Int} {k : StepKind} : Denotes (.int i) k ↔ i = k.number := by
  constructor
  · rintro ⟨⟩
    rfl
  · rintro rfl
    exact .number k

theorem denotes_double_iff {d : Double} {k : StepKind} : Denotes (.double d) k ↔ d.toInt? = some (k.number : Int) := by
  constructor
  · rintro ⟨⟩
    assumption
  · exact .whole

theorem denotes_bool_iff {b : Bool} {k : StepKind} :
    Denotes (.bool b) k ↔ (if b then 1 else 0 : Int) = k.number := by
  constructor
  · rintro ⟨⟩
    rfl
  · intro same
    cases b with
    | true =>
      obtain rfl : answer = k := number_inj same
      exact .truth
    | false => cases k <;> exact absurd same (by decide)

section

variable {v : Value} {k : StepKind}

/-- A value that denotes kinds by a number means the kind of that number. -/
theorem ofNumber_eq_iff_means {i : Int} (denotes : ∀ k', Denotes v k' ↔ i = k'.number) :
    ofNumber i = k ↔ Means v k := by
  rw [ofNumber_eq_iff, Means]
  simp only [denotes, ne_eq]

/-- A value that denotes no kind means a text answer. -/
theorem answer_eq_iff_means (none : ∀ k', ¬ Denotes v k') : answer = k ↔ Means v k := by
  constructor
  · intro same
    exact .inr ⟨same.symm, none⟩
  · rintro (denotes | ⟨same, -⟩)
    · exact absurd denotes (none k)
    · exact same.symm

end

theorem ofValue_text_iff {s : String} {k : StepKind} (readable : ¬ Unreadable (.text s)) :
    ofValue (.text s) = some k ↔ Means (.text s) k := by
  rw [ofValue]
  by_cases digital : IsDigital (word s)
  · have unnamed : ∀ k : StepKind, word s ≠ k.name.toList := fun k same => not_isDigital_name k (same ▸ digital)
    have numeral : IsNumeral (word s) := by
      by_contra other
      exact readable ⟨s, rfl, digital, other⟩
    rw [ofText_of_isNumeral numeral, Option.some.injEq]
    apply ofNumber_eq_iff_means
    intro k'
    simp only [denotes_text_iff, numeral, unnamed, true_and, or_false]
  · have denotes : ∀ k', Denotes (.text s) k' ↔ word s = k'.name.toList := by
      intro k'
      have other : ¬ IsNumeral (word s) := fun numeral => digital (isDigital_of_isNumeral numeral)
      simp only [denotes_text_iff, other, false_and, false_or]
    by_cases named : ∃ k' : StepKind, word s = k'.name.toList
    · obtain ⟨k', same⟩ := named
      rw [ofText_of_name same, Option.some.injEq]
      constructor
      · rintro rfl
        exact .inl (.name same)
      · rintro (denoted | ⟨-, none⟩)
        · exact name_inj (same.symm.trans ((denotes k).mp denoted))
        · exact absurd (.name same) (none k')
    · have unnamed := not_exists.mp named
      rw [ofText_of_other unnamed digital, Option.some.injEq]
      apply answer_eq_iff_means
      intro k' denoted
      exact unnamed k' ((denotes k').mp denoted)

/-- Every other value gives the kind that it denotes, or that of a text answer. -/
theorem ofValue_eq_some_iff {v : Value} {k : StepKind} (readable : ¬ Unreadable v) :
    ofValue v = some k ↔ Means v k := by
  cases v with
  | text s => exact ofValue_text_iff readable
  | int i =>
    rw [ofValue, Option.some.injEq]
    exact ofNumber_eq_iff_means fun k' => denotes_int_iff
  | bool b =>
    rw [ofValue, Option.some.injEq]
    exact ofNumber_eq_iff_means fun k' => denotes_bool_iff
  | double d =>
    rw [ofValue, Option.some.injEq]
    cases whole : d.toInt? with
    | some i =>
      apply ofNumber_eq_iff_means
      intro k'
      rw [denotes_double_iff, whole, Option.some.injEq]
    | none =>
      apply answer_eq_iff_means
      intro k' denotes
      rw [denotes_double_iff, whole] at denotes
      cases denotes
  | _ =>
    show some answer = some k ↔ Means _ k
    rw [Option.some.injEq]
    apply answer_eq_iff_means
    intro k' denotes
    cases denotes

end StepKind

namespace Step

/-- What is kept of a member: nothing if it is missing or null, a text as it is, and another value as JSON text. -/
inductive Kept : Option Value → String → Prop
  | missing : Kept none ""
  | null : Kept (some .null) ""
  | text (s : String) : Kept (some (.text s)) s
  | other {v : Value} (present : v ≠ .null) (noText : ∀ s, v ≠ .text s) : Kept (some v) (Json.print v)

theorem contentText_of_other {v : Value} (present : v ≠ .null) (noText : ∀ s, v ≠ .text s) :
    contentText v = Json.print v := by
  cases v with
  | null => exact absurd rfl present
  | text s => exact absurd rfl (noText s)
  | _ => rfl

theorem kept_iff {m : Option Value} {t : String} : Kept m t ↔ contentText (m.getD .null) = t := by
  constructor
  · intro kept
    cases kept with
    | missing => rfl
    | null => rfl
    | text s => rfl
    | other present noText => exact contentText_of_other present noText
  · rintro rfl
    cases m with
    | none => exact .missing
    | some v =>
      cases v with
      | null => exact .null
      | text s => exact .text s
      | _ => exact .other (by simp) (by simp)

/-- A step that an object describes: its contents are kept, and its kind is what is said of it. -/
structure Describes (members : List (String × Value)) (s : Step) : Prop where
  kind : kindMember members = none ∧ s.kind = .answer ∨
    ∃ key v, kindMember members = some (key, v) ∧ StepKind.Means v s.kind
  content : Kept (Value.lookup members "content") s.content
  description : Kept (Value.lookup members "description") s.description

/-- An object whose kind cannot be read, with the name that the kind goes by. -/
def Unclear (members : List (String × Value)) (key : String) : Prop :=
  ∃ v, kindMember members = some (key, v) ∧ StepKind.Unreadable v

section

variable {members : List (String × Value)} {s : Step}

theorem ofMembers_of_unclear {key : String} (unclear : Unclear members key) :
    ofMembers members = .error (.one "Step" [key] .unreadable) := by
  obtain ⟨v, given, unreadable⟩ := unclear
  have none := StepKind.ofValue_eq_none_iff.mpr unreadable
  simp only [ofMembers, given, none]

theorem describes_iff : Describes members s ↔
    (kindMember members = none ∧ s.kind = .answer ∨
      ∃ key v, kindMember members = some (key, v) ∧ StepKind.Means v s.kind) ∧
    contentText ((Value.lookup members "content").getD .null) = s.content ∧
    contentText ((Value.lookup members "description").getD .null) = s.description := by
  simp only [← kept_iff]
  constructor
  · rintro ⟨kind, content, description⟩
    exact ⟨kind, content, description⟩
  · rintro ⟨kind, content, description⟩
    exact ⟨kind, content, description⟩

/-- An object whose kind can be read is the one step that it describes. -/
theorem ofMembers_eq_ok_iff (clear : ∀ key, ¬ Unclear members key) :
    ofMembers members = .ok s ↔ Describes members s := by
  obtain ⟨kind, content, description⟩ := s
  rw [describes_iff]
  cases given : kindMember members with
  | none =>
    simp only [ofMembers, given, Except.ok.injEq, Step.mk.injEq, true_and, reduceCtorEq, false_and, exists_false,
      or_false, eq_comm]
  | some m =>
    obtain ⟨key, v⟩ := m
    have readable : ¬ StepKind.Unreadable v := fun unreadable => clear key ⟨v, given, unreadable⟩
    obtain ⟨k, read⟩ := StepKind.exists_ofValue readable
    have means : ∀ k', StepKind.Means v k' ↔ k = k' := by
      intro k'
      rw [← StepKind.ofValue_eq_some_iff readable, read, Option.some.injEq]
    simp only [ofMembers, given, read, Except.ok.injEq, Step.mk.injEq, reduceCtorEq, false_and, false_or,
      Option.some.injEq, Prod.mk.injEq]
    constructor
    · rintro ⟨rfl, same, same'⟩
      exact ⟨⟨key, v, ⟨rfl, rfl⟩, (means k).mpr rfl⟩, same, same'⟩
    · rintro ⟨⟨_, _, ⟨rfl, rfl⟩, kind'⟩, same, same'⟩
      exact ⟨(means kind).mp kind', same, same'⟩

/-- An object whose kind is missing or can be read is a step. -/
theorem exists_ofMembers (clear : ∀ key, ¬ Unclear members key) : ∃ s, ofMembers members = .ok s := by
  cases given : kindMember members with
  | none => simp only [ofMembers, given, Except.ok.injEq, exists_eq']
  | some m =>
    obtain ⟨key, v⟩ := m
    have readable : ¬ StepKind.Unreadable v := fun unreadable => clear key ⟨v, given, unreadable⟩
    obtain ⟨k, read⟩ := StepKind.exists_ofValue readable
    simp only [ofMembers, given, read, Except.ok.injEq, exists_eq']

end

/-- An object is a step unless its kind is a text of digits that is no numeral. As a step it keeps the contents, and
has the kind that is denoted, or that of a text answer. If it is none, all of it is a text answer as JSON text. -/
theorem object_is_step_iff (members : List (String × Value)) :
    ((∃ s, validate (.object members) = .ok s) ↔ ∀ key, ¬ Unclear members key) ∧
      (∀ s, validate (.object members) = .ok s ↔ Describes members s ∧ ∀ key, ¬ Unclear members key) ∧
      (∀ s, validate (.object members) = .ok s → ofItem (.object members) = s) ∧
      ∀ key, Unclear members key → validate (.object members) = .error (.one "Step" [key] .unreadable) ∧
        ofItem (.object members) = answer (Json.print (.object members)) := by
  have clear : ∀ s, ofMembers members = .ok s → ∀ key, ¬ Unclear members key := by
    intro s read key unclear
    rw [ofMembers_of_unclear unclear] at read
    cases read
  refine ⟨⟨?_, exists_ofMembers⟩, ?_, ?_, ?_⟩
  · rintro ⟨s, read⟩
    exact clear s read
  · intro s
    constructor
    · intro read
      exact ⟨(ofMembers_eq_ok_iff (clear s read)).mp read, clear s read⟩
    · rintro ⟨describes, clear⟩
      exact (ofMembers_eq_ok_iff clear).mpr describes
  · intro s read
    rw [validate] at read
    simp only [ofItem, read]
  · intro key unclear
    have refused := ofMembers_of_unclear unclear
    refine ⟨refused, ?_⟩
    simp only [ofItem, refused]

/-- A raised digit is taken for a digit and is no numeral: the object is no step, and its content stays in its text. -/
theorem raised_digit_no_step :
    ¬ ∀ members : List (String × Value), ∃ s, validate (.object members) = .ok s ∧ Describes members s := by
  intro claimed
  obtain ⟨s, read, -⟩ := claimed [("type", .text "²"), ("content", .text "ls")]
  have refused : validate (.object [("type", .text "²"), ("content", .text "ls")]) =
      .error (.one "Step" ["type"] .unreadable) := by decide
  rw [refused] at read
  cases read

/-- A value that is kept as text is not lost: from the content or the description of an item, or from a text answer
for an item that is no object, it is read back as it was. -/
theorem degraded_value_read_back (v : Value) (readable : Json.Readable v) (shallow : Json.nesting v < 250)
    (noText : ∀ s, v ≠ .text s) :
    (v ≠ .null → ∀ (members : List (String × Value)) (t : Int), Value.lookup members "type" = some (.int t) →
      ∃ s, validate (.object members) = .ok s ∧ ofItem (.object members) = s ∧ s.kind = StepKind.ofNumber t ∧
        (Value.lookup members "content" = some v → Json.parse s.content = .ok v) ∧
        (Value.lookup members "description" = some v → Json.parse s.description = .ok v)) ∧
      ((∀ members, v ≠ .object members) → ∃ content, ofItem v = answer content ∧ Json.parse content = .ok v) := by
  have limited : Json.nesting v ≤ Json.depthLimit := by
    have deep : (250 : ℕ) ≤ Json.depthLimit := by decide
    omega
  have back : Json.parse (Json.print v) = .ok v := Json.parse_print readable limited
  constructor
  · intro present members t typed
    have text : contentText v = Json.print v := contentText_of_other present noText
    have given : kindMember members = some ("type", .int t) := by simp only [kindMember, typed]
    have described : ofMembers members = .ok ⟨StepKind.ofNumber t,
        contentText ((Value.lookup members "content").getD .null),
        contentText ((Value.lookup members "description").getD .null)⟩ := by
      simp only [ofMembers, given, StepKind.ofValue]
    refine ⟨_, described, by simp only [ofItem, described], rfl, ?_, ?_⟩
    · intro content
      simp only [content, Option.getD_some, text, back]
    · intro description
      simp only [description, Option.getD_some, text, back]
  · intro noObject
    refine ⟨Json.print v, ?_, back⟩
    cases v with
    | text s => exact absurd rfl (noText s)
    | object members => exact absurd rfl (noObject members)
    | _ => rfl

/-- A value with what its text has to escape, an empty name and a long integer. -/
def knotted : Value := .object
  [("\"\n", .list [.int (-123456789012345678901234567890), .null, .object []]), ("", .text "\\ [\x01\u2028")]

theorem degraded_value_read_back_knotted :
    Json.Readable knotted ∧ Json.nesting knotted < 250 ∧ (∀ s, knotted ≠ .text s) ∧
      (∃ s, validate (.object [("type", .int 7), ("content", knotted), ("description", knotted)]) = .ok s ∧
        s.kind = .answer ∧ Json.parse s.content = .ok knotted ∧ Json.parse s.description = .ok knotted) ∧
      ∃ content, ofItem (.list [knotted]) = answer content ∧ Json.parse content = .ok (.list [knotted]) := by
  have readable : Json.Readable knotted := by
    have names : ["\"\n", ""].Nodup := by decide
    have short : (Nat.toDigits 10 (-123456789012345678901234567890 : Int).natAbs).length ≤ Numeral.limit := by decide
    exact ⟨names, ⟨short, trivial, ⟨List.nodup_nil, trivial⟩, trivial⟩, trivial, trivial⟩
  have noText : ∀ s, knotted ≠ .text s := by
    intro s
    simp [knotted]
  have present : knotted ≠ .null := by simp [knotted]
  refine ⟨readable, by decide, noText, ?_, ?_⟩
  · obtain ⟨s, described, -, kind, content, description⟩ :=
      (degraded_value_read_back knotted readable (by decide) noText).1 present
        [("type", .int 7), ("content", knotted), ("description", knotted)] 7 rfl
    exact ⟨s, described, kind, content rfl, description rfl⟩
  · exact (degraded_value_read_back (.list [knotted]) ⟨readable, trivial⟩ (by decide) (by simp)).2 (by simp)

end Step

end Stepwise
