import Stepwise.Proofs.SoundExtensions

/-!
Extensions are taken in as a whole. The declarations of an extension are checked one by one before the first entry
is made, so an extension that is refused leaves the catalogue as it was, whatever is wrong with it and wherever
that stands; and once the check is passed, no entry is refused. It follows that what a catalogue holds does not
depend on anything that it has ever refused.
-/

namespace Stepwise.Catalogue

variable {σ : Type} {c : Catalogue σ} {ext : Extension σ}

/-- Declarations of an extension that a catalogue can enter, with the entries for them. -/
structure CanEnter (c : Catalogue σ) (ext : Extension σ) (items : List Value) (new : List (Entry σ)) : Prop where
  declared : List.Forall₂ (Declares ext c.extensions.length) items new
  unknown : ∀ e ∈ new, c.has e.name = false
  distinct : (new.map Entry.name).Nodup

/-- What speaks against taking in an extension. -/
inductive Objection (c : Catalogue σ) (ext : Extension σ) : Fault → Prop
  /-- It does not tell what it declares. -/
  | untold {f : Fault} (told : ext.told = .error f) : Objection c ext f
  /-- A declaration is invalid, or names nothing that the extension has, or no function where it should. -/
  | unfit {before rest : List Value} {v : Value} {new : List (Entry σ)} {f : Fault}
      (told : ext.told = .ok (before ++ v :: rest)) (earlier : CanEnter c ext before new)
      (refused : entryOf ext c.extensions.length v = .error f) : Objection c ext f
  /-- The name of a declaration is taken by an entry of the catalogue, or by an earlier declaration. -/
  | taken {before rest : List Value} {v : Value} {new : List (Entry σ)} {e : Entry σ}
      (told : ext.told = .ok (before ++ v :: rest)) (earlier : CanEnter c ext before new)
      (declared : Declares ext c.extensions.length v e)
      (known : c.has e.name = true ∨ ∃ e' ∈ new, e'.name = e.name) : Objection c ext (.duplicate e.name)

theorem newEntries_eq_ok_iff {items : List Value} {new : List (Entry σ)} :
    newEntries c ext c.extensions.length [] items = .ok new ↔ CanEnter c ext items new := by
  constructor
  · intro made
    obtain ⟨es, rfl, declared, unknown, distinct⟩ := newEntries_ok made .nil
    exact ⟨declared, unknown, distinct⟩
  · rintro ⟨declared, unknown, distinct⟩
    exact newEntries_of_declares declared unknown distinct

/-- After declarations that can be entered, it depends on the next one how far the check gets. -/
theorem CanEnter.newEntries_cons {before : List Value} {new : List (Entry σ)} (earlier : CanEnter c ext before new)
    (v : Value) (rest : List Value) :
    newEntries c ext c.extensions.length [] (before ++ v :: rest) =
      newEntries c ext c.extensions.length new (v :: rest) := by
  have distinct : (([] ++ new).map Entry.name).Nodup := earlier.distinct
  exact newEntries_append earlier.declared earlier.unknown distinct (v :: rest)

/-- An extension is refused exactly for what speaks against it. -/
theorem objection_iff {f : Fault} :
    Objection c ext f ↔ ext.told = .error f ∨
      ∃ items, ext.told = .ok items ∧ newEntries c ext c.extensions.length [] items = .error f := by
  constructor
  · intro objection
    cases objection with
    | untold told => exact .inl told
    | @unfit before rest v new _ told earlier refused =>
      refine .inr ⟨_, told, ?_⟩
      rw [earlier.newEntries_cons, newEntries, refused]
    | @taken before rest v new e told earlier declared known =>
      refine .inr ⟨_, told, ?_⟩
      have clash : (c.has e.name || new.any (·.name == e.name)) = true := by simpa using known
      rw [earlier.newEntries_cons, newEntries, declared.entryOf_eq]
      simp only [clash, if_true]
  · rintro (told | ⟨items, told, refused⟩)
    · exact .untold told
    · obtain ⟨before, v, rest, new, rfl, declared, unknown, distinct, unfit | ⟨e, declares, rfl, known⟩⟩ :=
        newEntries_error refused .nil
      · exact .unfit told ⟨declared, unknown, distinct⟩ unfit
      · exact .taken told ⟨declared, unknown, distinct⟩ declares known

/-- Taking in an extension ends in one of two ways: with an objection and the catalogue as it was, or with all
that the extension declares behind the entries there were. -/
theorem enrol_cases (c : Catalogue σ) (ext : Extension σ) :
    (∃ f, Objection c ext f ∧ enrol ext c = ⟨.error f, c, ext.declaring⟩) ∨
    ∃ items new, ext.told = .ok items ∧ CanEnter c ext items new ∧
      enrol ext c = ⟨.ok c.extensions.length,
        { c with entries := c.entries ++ new, extensions := c.extensions ++ [ext.name] }, ext.declaring⟩ := by
  rw [enrol_apply]
  cases told : ext.told with
  | error f => exact .inl ⟨f, .untold told, rfl⟩
  | ok items =>
    cases checked : newEntries c ext c.extensions.length [] items with
    | error f =>
      have objection : Objection c ext f := objection_iff.mpr (.inr ⟨items, told, checked⟩)
      exact .inl ⟨f, objection, by simp only [checked]⟩
    | ok new => exact .inr ⟨items, new, rfl, newEntries_eq_ok_iff.mp checked, by simp only [checked]⟩

/-- Nothing speaks against an extension whose declarations can all be entered. -/
theorem CanEnter.not_objection {items : List Value} {new : List (Entry σ)} (told : ext.told = .ok items)
    (entered : CanEnter c ext items new) (f : Fault) : ¬ Objection c ext f := by
  intro objection
  rcases objection_iff.mp objection with untold | ⟨items', told', refused⟩
  · rw [told] at untold
    cases untold
  · rw [told] at told'
    cases told'
    rw [newEntries_eq_ok_iff.mpr entered] at refused
    cases refused

/-- What a catalogue is asked to take in: a single entry, or an extension. -/
inductive Submission (σ : Type)
  | entry (e : Entry σ)
  | extension (ext : Extension σ)

/-- Takes in what is submitted. -/
def submit : Submission σ → Act Deed (Catalogue σ) Unit
  | .entry e => enter e
  | .extension ext => do
    let _ ← enrol ext
    pure ()

/-- The catalogue after submissions, some of which it may have refused. -/
def afterAll (c : Catalogue σ) : List (Submission σ) → Catalogue σ
  | [] => c
  | x :: later => afterAll ((submit x).run c).world later

/-- The submissions that are not refused, when they are made one after the other. -/
def accepted (c : Catalogue σ) : List (Submission σ) → List (Submission σ)
  | [] => []
  | x :: later =>
    let r := (submit x).run c
    if r.result.isOk then x :: accepted r.world later else accepted r.world later

/-- A submission is refused without a trace, or new entries with new and different names come behind the others. -/
theorem submit_cases (c : Catalogue σ) (x : Submission σ) :
    (((submit x).run c).result.isOk = false ∧ ((submit x).run c).world = c) ∨
    (((submit x).run c).result.isOk = true ∧ ∃ new, ((submit x).run c).world.entries = c.entries ++ new ∧
      (∀ e ∈ new, c.has e.name = false) ∧ (new.map Entry.name).Nodup) := by
  rw [Act.run]
  cases x with
  | entry e =>
    cases known : c.has e.name with
    | true =>
      have ended : submit (.entry e) c = ⟨.error (.duplicate e.name), c, []⟩ := by simp [submit, enter, add, known]
      rw [ended]
      exact .inl ⟨rfl, rfl⟩
    | false =>
      have ended : submit (.entry e) c = ⟨.ok (), { c with entries := c.entries ++ [e] }, []⟩ := enter_of_new known
      rw [ended]
      exact .inr ⟨rfl, [e], rfl, by simpa using known, by simp⟩
  | extension ext =>
    rcases enrol_cases c ext with ⟨f, -, ended⟩ | ⟨items, new, -, entered, ended⟩
    · have ended' : submit (.extension ext) c = ⟨.error f, c, ext.declaring⟩ := by simp [submit, ended]
      rw [ended']
      exact .inl ⟨rfl, rfl⟩
    · have ended' : submit (.extension ext) c = ⟨.ok (), { c with
          entries := c.entries ++ new, extensions := c.extensions ++ [ext.name] }, ext.declaring⟩ := by
        simp [submit, ended]
      rw [ended']
      exact .inr ⟨rfl, new, rfl, entered.unknown, entered.distinct⟩

/-- What a catalogue has refused might as well not have been submitted to it. -/
theorem afterAll_accepted (c : Catalogue σ) (xs : List (Submission σ)) : afterAll c (accepted c xs) = afterAll c xs := by
  induction xs generalizing c with
  | nil => rfl
  | cons x later ih =>
    rcases submit_cases c x with ⟨refused, unchanged⟩ | ⟨taken, -⟩
    · simp only [accepted, afterAll, refused, unchanged, Bool.false_eq_true, if_false, ih c]
    · simp only [accepted, afterAll, taken, if_true, ih]

/-- Whatever mix of entries and extensions is submitted, no name stands for two entries. -/
theorem nodup_afterAll (xs : List (Submission σ)) (distinct : (c.entries.map Entry.name).Nodup) :
    ((afterAll c xs).entries.map Entry.name).Nodup := by
  induction xs generalizing c with
  | nil => exact distinct
  | cons x later ih =>
    refine ih ?_
    rcases submit_cases c x with ⟨-, unchanged⟩ | ⟨-, new, entries, unknown, distinct'⟩
    · rwa [unchanged]
    · rw [entries]
      exact nodup_names_append distinct unknown distinct'

/-- An extension that is refused for its second declaration leaves nothing behind, and its number to the next one. -/
example : ((afterAll (.empty "base") [.entry ⟨"b", 0, [], .value, "", .value .null⟩,
    .extension (declaring ["a", "b"]), .extension (declaring ["a", "c"])]).entries.map Entry.name) =
      ["b_0", "a_0", "c_0"] := by decide +kernel

end Stepwise.Catalogue
