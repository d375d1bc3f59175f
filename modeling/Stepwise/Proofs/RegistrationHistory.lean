import Mathlib.Data.List.Basic
import Mathlib.Data.List.Forall2
import Stepwise.Capability.Catalogue
import Stepwise.Proofs.Actions
import Stepwise.Proofs.Numerals

/-!
The history of a catalogue. Extensions are taken in one after the other, and some are refused. The ones that
are taken in are numbered without a gap, the entries are what they declare, in their order, and no two
entries ever get the same name, whatever the extensions call their capabilities: a name ends in the number
of its extension, after the last underscore. What is in the catalogue stays there.
-/

namespace Stepwise

variable {σ : Type}

/-- The name that a declaration gives, if it is one. -/
def Descriptor.nameOf? (v : Value) : Option String := (Descriptor.validate v).toOption.map (·.name)

namespace Extension

/-- The declarations of an extension, one by one. -/
def told (ext : Extension σ) : Except Fault (List Value) :=
  match ext.declarations with
  | .error f => .error f
  | .ok v => if v.isSomething then Fault.elements v else .ok []

/-- The declarations of an extension that can tell them. -/
def items (ext : Extension σ) : List Value := ext.told.toOption.getD []

/-- Whether an extension declares a name at two places. -/
def DeclaresTwice (ext : Extension σ) (name : String) : Prop :=
  ∃ before v rest, ext.told = .ok (before ++ v :: rest) ∧ Descriptor.nameOf? v = some name ∧
    ∃ u ∈ before, Descriptor.nameOf? u = some name

end Extension

/-- In lists that are related item by item, each item of the second is related to one of the first. -/
theorem exists_related {α β : Type} {R : α → β → Prop} {as : List α} {bs : List β}
    (h : List.Forall₂ R as bs) {b : β} (member : b ∈ bs) : ∃ a ∈ as, R a b := by
  induction h with
  | nil => cases member
  | cons related later ih =>
    rcases List.mem_cons.mp member with rfl | member
    · exact ⟨_, List.mem_cons_self, related⟩
    · obtain ⟨a, found, related⟩ := ih member
      exact ⟨a, List.mem_cons_of_mem _ found, related⟩

/-- In a list in which no key stands twice, each item is found by its key. -/
theorem find?_key_of_mem {α : Type} {key : α → String} {as : List α} {a : α} (distinct : (as.map key).Nodup)
    (member : a ∈ as) : as.find? (key · == key a) = some a := by
  obtain ⟨before, rest, rfl⟩ := List.append_of_mem member
  rw [List.map_append, List.map_cons, List.nodup_append] at distinct
  refine List.find?_eq_some_iff_append.mpr ⟨by simp, before, rest, rfl, fun b earlier => ?_⟩
  have other := distinct.2.2 (key b) (List.mem_map_of_mem earlier) (key a) List.mem_cons_self
  simpa using other

/-- The entry that an extension with a number gets for a declaration. -/
structure Declares (ext : Extension σ) (number : ℕ) (v : Value) (e : Entry σ) : Prop where
  declared : Descriptor.validate v = .ok ⟨e.base, e.kind, e.params, e.description⟩
  numbered : e.index = number
  implemented : ext.attribute? e.base = some e.handler
  callable : e.kind = .function → e.handler.isCallable = true

namespace Declares

variable {ext : Extension σ} {number : ℕ} {v : Value} {e : Entry σ}

theorem nameOf?_eq (h : Declares ext number v e) : Descriptor.nameOf? v = some e.base := by
  rw [Descriptor.nameOf?, h.declared]
  rfl

/-- The name under which an entry is called ends in the number of the extension. -/
theorem toList_name (h : Declares ext number v e) :
    e.name.toList = e.base.toList ++ '_' :: Nat.toDigits 10 number := by
  rw [Entry.name, h.numbered, Numeral.toString_natCast]
  simp

/-- Entries with the same name are declared under the same name by the same extension. -/
theorem name_inj {ext' : Extension σ} {number' : ℕ} {v' : Value} {e' : Entry σ}
    (h : Declares ext number v e) (h' : Declares ext' number' v' e') (same : e.name = e'.name) :
    e.base = e'.base ∧ number = number' := by
  have texts := congrArg (Text.cutLast '_' ·.toList) same
  simp only [h.toList_name, h'.toList_name,
    Text.cutLast_append _ Nat.underscore_not_in_toDigits, Option.some.injEq, Prod.mk.injEq,
    Numeral.toDigits_inj] at texts
  exact ⟨String.toList_inj.mp texts.1, texts.2⟩

end Declares

namespace Catalogue

variable {c : Catalogue σ} {ext : Extension σ} {number : ℕ} {v : Value} {e : Entry σ}

theorem declares_of_entryOf (h : entryOf ext number v = .ok e) : Declares ext number v e := by
  unfold entryOf at h
  split at h
  · cases h
  next d read =>
    split at h
    · cases h
    next handler implemented =>
      split at h
      · cases h
      next callable =>
        cases h
        have callable : d.kind = .function → handler.isCallable = true := by simpa using callable
        exact ⟨read, rfl, implemented, callable⟩

/-- A declaration is never refused for its name alone. -/
theorem entryOf_ne_duplicate (q : String) : entryOf ext number v ≠ .error (.duplicate q) := by
  unfold entryOf
  split
  · simp
  · split
    · simp
    · split <;> simp

theorem has_eq_false_iff {name : String} : c.has name = false ↔ ∀ e ∈ c.entries, e.name ≠ name := by
  rw [has, find?, Option.isSome_eq_false_iff, Option.isNone_iff_eq_none, List.find?_eq_none]
  simp

/-- New entries with different names, none of which the catalogue has, leave its names different. -/
theorem nodup_names_append {new : List (Entry σ)} (distinct : (c.entries.map Entry.name).Nodup)
    (unknown : ∀ e ∈ new, c.has e.name = false) (distinct' : (new.map Entry.name).Nodup) :
    ((c.entries ++ new).map Entry.name).Nodup := by
  rw [List.map_append, List.nodup_append]
  refine ⟨distinct, distinct', ?_⟩
  rintro name old _ fresh rfl
  obtain ⟨e, member, rfl⟩ := List.mem_map.mp fresh
  obtain ⟨e', known, same⟩ := List.mem_map.mp old
  exact has_eq_false_iff.mp (unknown e member) e' known same

theorem nodup_names_concat {made : List (Entry σ)} (distinct : (made.map Entry.name).Nodup)
    (new : ∀ e' ∈ made, e'.name ≠ e.name) : ((made ++ [e]).map Entry.name).Nodup := by
  simp only [List.map_append, List.map_cons, List.map_nil, List.nodup_append]
  exact ⟨distinct, by simp, by simpa using new⟩

/-- The new entries are what is declared, with names that are new and different. -/
theorem newEntries_ok {made es : List (Entry σ)} {items : List Value}
    (h : newEntries c ext number made items = .ok es) (distinct : (made.map Entry.name).Nodup) :
    ∃ new, es = made ++ new ∧ List.Forall₂ (Declares ext number) items new ∧
      (∀ e ∈ new, c.has e.name = false) ∧ (es.map Entry.name).Nodup := by
  induction items generalizing made with
  | nil =>
    cases h
    exact ⟨[], by simp, .nil, by simp, distinct⟩
  | cons v items ih =>
    unfold newEntries at h
    split at h
    · cases h
    next e made' =>
      split at h
      · cases h
      next new =>
        simp only [Bool.or_eq_true, List.any_eq_true, beq_iff_eq, not_or, not_exists, not_and,
          Bool.not_eq_true] at new
        have more := nodup_names_concat distinct new.2
        obtain ⟨rest, rfl, declared, unknown, distinct⟩ := ih h more
        refine ⟨e :: rest, by simp, .cons (declares_of_entryOf made') declared, ?_, distinct⟩
        simpa [new.1] using unknown

/-- What keeps declarations from making entries is the first one of them that is refused, or that gives a name
which is taken. The ones before it could all be entered. -/
theorem newEntries_error {made : List (Entry σ)} {items : List Value} {f : Fault}
    (h : newEntries c ext number made items = .error f) (distinct : (made.map Entry.name).Nodup) :
    ∃ before v rest new, items = before ++ v :: rest ∧ List.Forall₂ (Declares ext number) before new ∧
      (∀ e ∈ new, c.has e.name = false) ∧ ((made ++ new).map Entry.name).Nodup ∧
      (entryOf ext number v = .error f ∨ ∃ e, Declares ext number v e ∧ f = .duplicate e.name ∧
        (c.has e.name = true ∨ ∃ e' ∈ made ++ new, e'.name = e.name)) := by
  induction items generalizing made with
  | nil => cases h
  | cons v items ih =>
    unfold newEntries at h
    split at h
    next f' refused =>
      cases h
      exact ⟨[], v, items, [], rfl, .nil, by simp, by simpa using distinct, .inl refused⟩
    next e made' =>
      have declared := declares_of_entryOf made'
      split at h
      next taken =>
        cases h
        refine ⟨[], v, items, [], rfl, .nil, by simp, by simpa using distinct, .inr ⟨e, declared, rfl, ?_⟩⟩
        simpa using taken
      next new =>
        simp only [Bool.or_eq_true, List.any_eq_true, beq_iff_eq, not_or, not_exists, not_and,
          Bool.not_eq_true] at new
        have more := nodup_names_concat distinct new.2
        obtain ⟨before, w, rest, es, rfl, before_declared, unknown, distinct', reason⟩ := ih h more
        have shift : made ++ [e] ++ es = made ++ e :: es := by simp
        rw [shift] at distinct' reason
        refine ⟨v :: before, w, rest, e :: es, rfl, .cons declared before_declared, ?_, distinct', reason⟩
        simpa [new.1] using unknown

/-- A name is refused only if the catalogue has it, or if it was declared before. -/
theorem newEntries_duplicate {items : List Value} {q : String}
    (h : newEntries c ext number [] items = .error (.duplicate q)) :
    ∃ before v rest new e, items = before ++ v :: rest ∧
      List.Forall₂ (Declares ext number) before new ∧ Declares ext number v e ∧ e.name = q ∧
      (c.has q = true ∨ ∃ e' ∈ new, e'.name = q) := by
  obtain ⟨before, v, rest, new, rfl, made, -, -, refused | ⟨e, declared, same, taken⟩⟩ :=
    newEntries_error h .nil
  · exact absurd refused (entryOf_ne_duplicate q)
  · cases same
    exact ⟨before, v, rest, new, e, rfl, made, declared, rfl, taken⟩

theorem forM_say {ε τ : Type} (events : List ε) (s : τ) :
    forM events (fun x => (Act.say x : Act ε τ Unit)) s = ⟨.ok (), s, events⟩ := by
  induction events with
  | nil => rfl
  | cons x events ih => simp [List.forM_cons, ih]

theorem enter_of_new (new : c.has e.name = false) :
    enter e c = ⟨.ok (), { c with entries := c.entries ++ [e] }, []⟩ := by
  simp [enter, add, new]

theorem has_append (c : Catalogue σ) (e : Entry σ) (name : String) :
    ({ c with entries := c.entries ++ [e] } : Catalogue σ).has name = (c.has name || e.name == name) := by
  by_cases same : e.name = name <;> simp [has, find?, same]

/-- Entries with new and different names are all entered, none is left out halfway. -/
theorem forM_enter {es : List (Entry σ)} (unknown : ∀ e ∈ es, c.has e.name = false)
    (distinct : (es.map Entry.name).Nodup) :
    forM es enter c = ⟨.ok (), { c with entries := c.entries ++ es }, []⟩ := by
  induction es generalizing c with
  | nil => simp
  | cons e es ih =>
    rw [List.forall_mem_cons] at unknown
    rw [List.map_cons, List.nodup_cons] at distinct
    have later : ∀ e' ∈ es, ({ c with entries := c.entries ++ [e] } : Catalogue σ).has e'.name = false := by
      intro e' member
      have other : e.name ≠ e'.name := fun same => distinct.1 (same ▸ List.mem_map_of_mem member)
      rw [has_append, unknown.2 e' member]
      simpa using other
    have rest := ih later distinct.2
    simp [List.forM_cons, enter_of_new unknown.1, rest]

/-- Taking in an extension: it is refused without a trace, or all that it declares is entered. -/
theorem enrol_apply (c : Catalogue σ) (ext : Extension σ) :
    enrol ext c = match ext.told with
      | .error f => ⟨.error f, c, ext.declaring⟩
      | .ok items =>
        match newEntries c ext c.extensions.length [] items with
        | .error f => ⟨.error f, c, ext.declaring⟩
        | .ok es => ⟨.ok c.extensions.length,
            { c with entries := c.entries ++ es, extensions := c.extensions ++ [ext.name] },
            ext.declaring⟩ := by
  unfold enrol Extension.told
  cases ext.declarations with
  | error f => simp [forM_say]
  | ok v =>
    cases told : (if v.isSomething then Fault.elements v else .ok []) with
    | error f => simp [told, forM_say]
    | ok items =>
      cases new : newEntries c ext c.extensions.length [] items with
      | error f => simp [told, new, forM_say]
      | ok es =>
        obtain ⟨es, rfl, -, unknown, distinct⟩ := newEntries_ok new .nil
        have entered := forM_enter unknown distinct
        simp [told, new, forM_say, entered]

/-- Taking in an extension, from its declarations one by one. -/
theorem register_eq (c : Catalogue σ) (ext : Extension σ) :
    c.register ext = match ext.told with
      | .error f => .error f
      | .ok items =>
        match newEntries c ext c.extensions.length [] items with
        | .error f => .error f
        | .ok es => .ok ({ c with entries := c.entries ++ es, extensions := c.extensions ++ [ext.name] },
            c.extensions.length) := by
  rw [register, Act.run, enrol_apply]
  cases ext.told with
  | error f => rfl
  | ok items => cases new : newEntries c ext c.extensions.length [] items <;> simp [new, Except.map]

theorem register_ok {c' : Catalogue σ} {index : ℕ} (h : c.register ext = .ok (c', index)) :
    ∃ items es, ext.told = .ok items ∧ newEntries c ext c.extensions.length [] items = .ok es ∧
      index = c.extensions.length ∧
      c' = { c with entries := c.entries ++ es, extensions := c.extensions ++ [ext.name] } := by
  rw [register_eq] at h
  split at h
  · cases h
  next items told =>
    split at h
    · cases h
    next es new =>
      cases h
      exact ⟨items, es, told, new, rfl, rfl⟩

theorem register_duplicate {q : String} (h : c.register ext = .error (.duplicate q)) :
    ext.declarations = .error (.duplicate q) ∨
      ∃ items, ext.told = .ok items ∧
        newEntries c ext c.extensions.length [] items = .error (.duplicate q) := by
  rw [register_eq] at h
  split at h
  next f told =>
    cases h
    unfold Extension.told at told
    split at told
    next f declared =>
      cases told
      exact .inl declared
    next v declared =>
      split at told
      · unfold Fault.elements at told
        cases elements : v.elements <;> simp [elements, Except.mapError] at told
      · cases told
  next items told =>
    split at h
    next f refused =>
      cases h
      exact .inr ⟨items, told, refused⟩
    · cases h

/-- What extensions declare, one extension after the other, each declaration with the extension and its
number. -/
def declarations (taken : List (Extension σ)) : List (Extension σ × ℕ × Value) :=
  taken.zipIdx.flatMap fun p => p.1.items.map fun v => (p.1, p.2, v)

theorem declarations_concat (taken : List (Extension σ)) (ext : Extension σ) :
    declarations (taken ++ [ext]) =
      declarations taken ++ ext.items.map fun v => (ext, taken.length, v) := by
  simp [declarations, List.zipIdx_append]

/-- A catalogue that holds what some extensions declare, and nothing else. -/
structure Holds (c : Catalogue σ) (taken : List (Extension σ)) : Prop where
  extensions : c.extensions = taken.map (·.name)
  entries : List.Forall₂ (fun d e => Declares d.1 d.2.1 d.2.2 e) (declarations taken) c.entries
  distinct : (c.entries.map Entry.name).Nodup

theorem holds_empty (root : String) : Holds (.empty root : Catalogue σ) [] :=
  ⟨rfl, .nil, .nil⟩

namespace Holds

variable {taken : List (Extension σ)}

/-- Every entry is declared by one of the extensions. -/
theorem declares_of_mem (h : Holds c taken) (member : e ∈ c.entries) :
    ∃ ext k v, k < taken.length ∧ Declares ext k v e := by
  obtain ⟨⟨ext, k, v⟩, declared, made⟩ := exists_related h.entries member
  simp only [declarations, List.mem_flatMap, List.mem_map, Prod.mk.injEq] at declared
  obtain ⟨⟨ext', k'⟩, position, v', -, rfl, rfl, rfl⟩ := declared
  have bound := (List.mem_zipIdx position).2.1
  rw [Nat.zero_add] at bound
  exact ⟨ext', k', v', bound, made⟩

/-- The catalogue has no name that ends in the number of the next extension. -/
theorem has_eq_false (h : Holds c taken) (declared : Declares ext taken.length v e) :
    c.has e.name = false := by
  rw [has_eq_false_iff]
  intro e' member same
  obtain ⟨ext', k, v', bound, declared'⟩ := h.declares_of_mem member
  have number := (declared'.name_inj declared same).2
  omega

theorem extensions_length (h : Holds c taken) : c.extensions.length = taken.length := by
  rw [h.extensions, List.length_map]

/-- An extension that is taken in gets the next number, and its declarations come last. -/
theorem register (h : Holds c taken) {c' : Catalogue σ} {index : ℕ}
    (ok : c.register ext = .ok (c', index)) :
    index = taken.length ∧ (∃ items, ext.told = .ok items) ∧ Holds c' (taken ++ [ext]) := by
  obtain ⟨items, es, told, new, rfl, rfl⟩ := register_ok ok
  rw [h.extensions_length] at new ⊢
  obtain ⟨es, rfl, declared, unknown, distinct⟩ := newEntries_ok new .nil
  refine ⟨rfl, ⟨items, told⟩, by simp [h.extensions], ?_, ?_⟩
  · rw [declarations_concat, Extension.items, told]
    refine List.rel_append h.entries ?_
    simpa [List.forall₂_map_left_iff, Except.toOption] using declared
  · exact nodup_names_append h.distinct unknown distinct

/-- No name is refused because of what another extension declares. -/
theorem declaresTwice (h : Holds c taken) {q : String} (refused : c.register ext = .error (.duplicate q)) :
    ext.declarations = .error (.duplicate q) ∨
      ∃ name, q = name ++ "_" ++ toString taken.length ∧ ext.DeclaresTwice name := by
  rcases register_duplicate refused with failed | ⟨items, told, new⟩
  · exact .inl failed
  · rw [h.extensions_length] at new
    obtain ⟨before, v, rest, es, e, rfl, made, declared, rfl, known⟩ := newEntries_duplicate new
    -- Names in the catalogue have smaller numbers, so the clash is with a name of the same extension.
    rw [h.has_eq_false declared] at known
    obtain ⟨e', member, same⟩ := known.resolve_left (by simp)
    obtain ⟨u, earlier, declared'⟩ := exists_related made member
    refine .inr ⟨e.base, ?_, before, v, rest, told, declared.nameOf?_eq, u, earlier, ?_⟩
    · rw [Entry.name, declared.numbered, Numeral.toString_natCast]
    · rw [declared'.nameOf?_eq, (declared'.name_inj declared same).1]

end Holds

/-- A catalogue that has grown: what was in it is still there, in its place. -/
structure Grown (c c' : Catalogue σ) : Prop where
  root : c'.root = c.root
  entries : c.entries <+: c'.entries

namespace Grown

variable {c' c'' : Catalogue σ}

theorem refl (c : Catalogue σ) : Grown c c := ⟨rfl, List.prefix_refl _⟩

theorem trans (h : Grown c c') (h' : Grown c' c'') : Grown c c'' :=
  ⟨h'.root.trans h.root, h.entries.trans h'.entries⟩

theorem of_register {index : ℕ} (ok : c.register ext = .ok (c', index)) : Grown c c' := by
  obtain ⟨items, es, -, -, -, rfl⟩ := register_ok ok
  exact ⟨rfl, List.prefix_append _ _⟩

/-- A name that was found is found again. -/
theorem resolve (h : Grown c c') {name : String} {space : Option String}
    (found : c.resolve name space = some e) : c'.resolve name space = some e := by
  obtain ⟨more, entries⟩ := h.entries
  have again : ∀ e, c.find? name = some e → c'.find? name = some e := by
    intro e found
    rw [find?] at found
    rw [find?, ← entries, List.find?_append, found, Option.some_or]
  cases space with
  | none => exact again e found
  | some space =>
    simp only [Catalogue.resolve, h.root, Option.ite_none_right_eq_some] at found ⊢
    exact ⟨found.1, again e found.2⟩

theorem linesFrom_append (n : ℕ) (es es' : List (Entry σ)) :
    linesFrom n (es ++ es') = linesFrom n es ++ linesFrom (n + es.length) es' := by
  induction es generalizing n with
  | nil => rfl
  | cons e es ih => simp [linesFrom, ih, Nat.add_assoc, Nat.add_comm 1]

/-- The lines that told of the entries are told again. -/
theorem describe (h : Grown c c') : c.describe <+: c'.describe := by
  obtain ⟨more, entries⟩ := h.entries
  rw [Catalogue.describe, Catalogue.describe, ← entries, linesFrom_append]
  exact List.prefix_append _ _

end Grown

/-- Takes in extensions one after the other. What is refused leaves the catalogue as it is. The second
result tells for each extension its number, or why it was refused. -/
def registerAll : Catalogue σ → List (Extension σ) → Catalogue σ × List (Except Fault ℕ)
  | c, [] => (c, [])
  | c, ext :: exts =>
    match c.register ext with
    | .error f => ((registerAll c exts).1, .error f :: (registerAll c exts).2)
    | .ok (c', index) => ((registerAll c' exts).1, .ok index :: (registerAll c' exts).2)

/-- The extensions that were taken in, according to the results. -/
def takenIn (exts : List (Extension σ)) (results : List (Except Fault ℕ)) : List (Extension σ) :=
  (exts.zip results).filterMap fun p => p.2.toOption.map fun _ => p.1

@[simp] theorem takenIn_nil (results : List (Except Fault ℕ)) :
    takenIn ([] : List (Extension σ)) results = [] := rfl

@[simp] theorem takenIn_error (ext : Extension σ) (exts : List (Extension σ)) (f : Fault)
    (results : List (Except Fault ℕ)) :
    takenIn (ext :: exts) (.error f :: results) = takenIn exts results := rfl

@[simp] theorem takenIn_ok (ext : Extension σ) (exts : List (Extension σ)) (index : ℕ)
    (results : List (Except Fault ℕ)) :
    takenIn (ext :: exts) (.ok index :: results) = ext :: takenIn exts results := rfl

theorem registerAll_append (c : Catalogue σ) (exts later : List (Extension σ)) :
    registerAll c (exts ++ later) =
      ((registerAll (registerAll c exts).1 later).1,
        (registerAll c exts).2 ++ (registerAll (registerAll c exts).1 later).2) := by
  induction exts generalizing c with
  | nil => rfl
  | cons ext exts ih =>
    simp only [List.cons_append, registerAll]
    cases c.register ext with
    | error f => simp [ih]
    | ok r => simp [ih]

theorem grown_registerAll (c : Catalogue σ) (exts : List (Extension σ)) :
    Grown c (registerAll c exts).1 := by
  induction exts generalizing c with
  | nil => exact .refl c
  | cons ext exts ih =>
    simp only [registerAll]
    split
    · exact ih c
    next c' index ok => exact (Grown.of_register ok).trans (ih c')

/-- What taking in extensions comes to, when some were taken in before. -/
structure Registered (prior exts : List (Extension σ)) (c : Catalogue σ)
    (results : List (Except Fault ℕ)) : Prop where
  /-- Each extension has its result, and the ones that are taken in are numbered without a gap. -/
  answered : results.length = exts.length
  numbers : results.filterMap Except.toOption = List.range' prior.length (takenIn exts results).length
  told : ∀ ext ∈ takenIn exts results, ∃ items, ext.told = .ok items
  /-- The catalogue holds what these declare. -/
  holds : Holds c (prior ++ takenIn exts results)
  /-- A name is refused only to an extension that declares it twice. -/
  refused : ∀ ext q, (ext, .error (.duplicate q)) ∈ exts.zip results →
    ext.declarations = .error (.duplicate q) ∨
      ∃ name, (∃ number : ℕ, q = name ++ "_" ++ toString number) ∧ ext.DeclaresTwice name

theorem Holds.registered {taken : List (Extension σ)} (h : Holds c taken) (exts : List (Extension σ)) :
    Registered taken exts (registerAll c exts).1 (registerAll c exts).2 := by
  -- By induction on the extensions. The invariant is what the catalogue holds of those taken in before.
  induction exts generalizing c taken with
  | nil => exact ⟨rfl, rfl, by simp, by simpa [registerAll] using h, by simp⟩
  | cons ext exts ih =>
    simp only [registerAll]
    split
    next f failed =>
      have later := ih h
      refine ⟨by simp [later.answered], later.numbers, later.told, later.holds, ?_⟩
      intro ext' q member
      simp only [List.zip_cons_cons, List.mem_cons, Prod.mk.injEq] at member
      rcases member with ⟨rfl, same⟩ | member
      · cases same
        rcases h.declaresTwice failed with telling | ⟨name, named, twice⟩
        · exact .inl telling
        · exact .inr ⟨name, ⟨_, named⟩, twice⟩
      · exact later.refused ext' q member
    next c' index ok =>
      obtain ⟨rfl, told, holds⟩ := h.register ok
      have later := ih holds
      have numbers := later.numbers
      rw [List.length_append] at numbers
      refine ⟨by simp [later.answered], congrArg (List.cons taken.length) numbers, ?_, ?_, ?_⟩
      · simpa [told] using later.told
      · simpa using later.holds
      · intro ext' q member
        simp only [List.zip_cons_cons, List.mem_cons, Prod.mk.injEq] at member
        rcases member with ⟨-, same⟩ | member
        · cases same
        · exact later.refused ext' q member

/-- What a catalogue gives under the names of its entries, also to code. -/
structure Serves (c : Catalogue σ) : Prop where
  stored : ∀ e ∈ c.entries, c.find? (e.base ++ "_" ++ toString e.index) = some e
  resolved : ∀ e ∈ c.entries, c.resolve e.name none = some e ∧ c.resolve e.name (some c.root) = some e
  seen : ∀ e ∈ c.entries, c.handlerOf e.name = .ok e.handler
  callable : ∀ e ∈ c.entries, e.kind = .function → e.handler.isCallable = true

theorem find?_of_mem (distinct : (c.entries.map Entry.name).Nodup) (member : e ∈ c.entries) :
    c.find? e.name = some e :=
  find?_key_of_mem distinct member

/-- No member of the view that code gets has a name that ends in a digit. -/
theorem lookup_viewMembers_eq_none {name : String} {c : Char} (last : name.toList.getLast? = some c)
    (digit : c.isDigit = true) : Value.lookup viewMembers name = none := by
  have members : viewMembers.all fun m => !(m.1.toList.getLast?.any Char.isDigit) := by decide +kernel
  rw [Value.lookup, Option.map_eq_none_iff, List.find?_eq_none]
  intro m member same
  have other := List.all_eq_true.mp members m member
  have named : m.1 = name := by simpa using same
  rw [named, last] at other
  simp [digit] at other

theorem Holds.serves {taken : List (Extension σ)} (h : Holds c taken) : Serves c := by
  have found : ∀ e ∈ c.entries, c.find? e.name = some e := fun e => find?_of_mem h.distinct
  refine ⟨found, fun e member => ⟨found e member, ?_⟩, fun e member => ?_, fun e member => ?_⟩
  · simp [resolve, found e member]
  · obtain ⟨ext, k, v, -, declared⟩ := h.declares_of_mem member
    have digits := Nat.toDigits_ne_nil (n := k) (b := 10)
    have last : e.name.toList.getLast? = some ((Nat.toDigits 10 k).getLast digits) := by
      rw [declared.toList_name]
      simp [List.getLast?_append, List.getLast?_cons, List.getLast?_eq_some_getLast digits]
    rw [handlerOf, found e member,
      lookup_viewMembers_eq_none last (Numeral.isDigit_of_mem (List.getLast_mem digits))]
  · obtain ⟨ext, k, v, -, declared⟩ := h.declares_of_mem member
    exact declared.callable

/-- The catalogue that extensions make, in a name space. -/
def ofExtensions (root : String) (exts : List (Extension σ)) : Catalogue σ :=
  (registerAll (.empty root) exts).1

/-- For each extension the number that it got, or why it was refused. -/
def outcomes (root : String) (exts : List (Extension σ)) : List (Except Fault ℕ) :=
  (registerAll (.empty root) exts).2

/-- An extension that declares values under names. -/
def declaring (names : List String) : Extension Unit :=
  ⟨.text "E", [], .ok (.list (names.map fun name => .object [("name", .text name), ("kind", .text "value")])),
    names.map fun name => (name, .value .null)⟩

/-- The second extension is refused, and gets no number. -/
example : ((ofExtensions "base" [declaring ["a", "a_1"], declaring ["a", "a"], declaring ["a"]]).entries.map
    Entry.name) = ["a_0", "a_1_0", "a_1"] := by decide +kernel

end Catalogue

end Stepwise
