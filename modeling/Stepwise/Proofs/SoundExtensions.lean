import Mathlib.Data.List.Nodup
import Stepwise.Capability.Toolbox
import Stepwise.Proofs.RegistrationHistory

/-!
What it takes for an extension to be taken in. Its declarations have to be told, each has to be valid and implemented,
and no name may be declared twice. Which extensions were taken in before makes no difference, apart from the number
that the new one gets. The capabilities that are built in come from such an extension, too, and it has number zero.
-/

namespace Stepwise

open Catalogue

variable {σ : Type} {ext : Extension σ} {number : ℕ} {v : Value} {e : Entry σ} {c : Catalogue σ}

/-- The entry for an extension with another number. -/
def Entry.renumbered (number : ℕ) (e : Entry σ) : Entry σ := { e with index := number }

@[simp] theorem Entry.map_base_renumbered (number : ℕ) (es : List (Entry σ)) :
    (es.map (Entry.renumbered number)).map Entry.base = es.map Entry.base := by
  rw [List.map_map]
  rfl

namespace Declares

/-- What an extension declares does not depend on its number. -/
theorem renumbered (h : Declares ext number v e) (other : ℕ) : Declares ext other v (e.renumbered other) :=
  ⟨h.declared, rfl, h.implemented, h.callable⟩

theorem name_eq (h : Declares ext number v e) : e.name = e.base ++ "_" ++ toString number := by
  rw [Entry.name, h.numbered, Numeral.toString_natCast]

theorem entryOf_eq (h : Declares ext number v e) : entryOf ext number v = .ok e := by
  obtain ⟨base, index, params, kind, description, handler⟩ := e
  obtain ⟨declared, rfl, implemented, callable⟩ := h
  have called : ¬ (kind = .function ∧ (!handler.isCallable) = true) := by
    rintro ⟨function, other⟩
    rw [callable function] at other
    cases other
  simp only at declared implemented
  simp only [entryOf, declared, implemented, if_neg called, Entry.ofDescriptor]

/-- Entries of one extension have different names if they are declared under different names. -/
theorem nodup_names {items : List Value} {es : List (Entry σ)} (h : List.Forall₂ (Declares ext number) items es) :
    (es.map Entry.name).Nodup ↔ (es.map Entry.base).Nodup := by
  have named : es.map Entry.name = (es.map Entry.base).map (· ++ "_" ++ toString number) := by
    induction h with
    | nil => rfl
    | cons declared _ ih => rw [List.map_cons, ih, declared.name_eq]; rfl
  have distinct : Function.Injective (fun base : String => base ++ "_" ++ toString number) := by
    intro base base' same
    simpa using same
  rw [named, List.nodup_map_iff distinct]

end Declares

namespace Extension

/-- An extension that tells its declarations, all of them valid and implemented and no two under the same name. -/
def Sound (ext : Extension σ) : Prop :=
  ∃ items es, ext.told = .ok items ∧ List.Forall₂ (Declares ext 0) items es ∧ (es.map Entry.base).Nodup

/-- Whether an extension can be taken in, if there is no other. -/
def isSound (ext : Extension σ) : Bool := ((Catalogue.empty defaultSpace).register ext).isOk

end Extension

namespace Catalogue

/-- Valid declarations with new and different names make entries, whatever is declared after them. -/
theorem newEntries_append {made new : List (Entry σ)} {items : List Value}
    (declared : List.Forall₂ (Declares ext number) items new) (unknown : ∀ e ∈ new, c.has e.name = false)
    (distinct : ((made ++ new).map Entry.name).Nodup) (rest : List Value) :
    newEntries c ext number made (items ++ rest) = newEntries c ext number (made ++ new) rest := by
  induction declared generalizing made with
  | nil => simp
  | @cons v e items new first later ih =>
    rw [List.forall_mem_cons] at unknown
    have fresh : made.any (·.name == e.name) = false := by
      rw [List.map_append, List.map_cons, List.nodup_append] at distinct
      rw [List.any_eq_false]
      intro e' earlier same
      exact distinct.2.2 e'.name (List.mem_map_of_mem earlier) e.name List.mem_cons_self (by simpa using same)
    rw [List.append_cons] at distinct ⊢
    simp only [List.cons_append, newEntries, first.entryOf_eq, unknown.1, fresh, Bool.or_self, Bool.false_eq_true,
      if_false]
    exact ih unknown.2 distinct

theorem newEntries_of_declares {made new : List (Entry σ)} {items : List Value}
    (declared : List.Forall₂ (Declares ext number) items new) (unknown : ∀ e ∈ new, c.has e.name = false)
    (distinct : ((made ++ new).map Entry.name).Nodup) : newEntries c ext number made items = .ok (made ++ new) := by
  have all := newEntries_append declared unknown distinct []
  rwa [List.append_nil] at all

theorem register_of_newEntries {items : List Value} {es : List (Entry σ)} (told : ext.told = .ok items)
    (new : newEntries c ext c.extensions.length [] items = .ok es) :
    c.register ext = .ok ({ c with entries := c.entries ++ es, extensions := c.extensions ++ [ext.name] },
      c.extensions.length) := by
  rw [register_eq, told]
  simp only [new]

/-- Whether an extension is taken in depends on nothing but the extension. -/
theorem Holds.register_iff {taken : List (Extension σ)} (h : Holds c taken) :
    (∃ r, c.register ext = .ok r) ↔ ext.Sound := by
  constructor
  · rintro ⟨⟨c', index⟩, ok⟩
    obtain ⟨items, es, told, new, -, -⟩ := register_ok ok
    obtain ⟨es, rfl, declared, -, distinct⟩ := newEntries_ok new .nil
    rw [Declares.nodup_names declared] at distinct
    refine ⟨items, es.map (Entry.renumbered 0), told, ?_, by rwa [Entry.map_base_renumbered]⟩
    rw [List.forall₂_map_right_iff]
    exact declared.imp fun _ _ declares => declares.renumbered 0
  · rintro ⟨items, es, told, declared, distinct⟩
    have renumbered : List.Forall₂ (Declares ext taken.length) items (es.map (Entry.renumbered taken.length)) := by
      rw [List.forall₂_map_right_iff]
      exact declared.imp fun _ _ declares => declares.renumbered taken.length
    have unknown : ∀ e ∈ es.map (Entry.renumbered taken.length), c.has e.name = false := by
      intro e member
      obtain ⟨v, -, declares⟩ := exists_related renumbered member
      exact h.has_eq_false declares
    have names : ((es.map (Entry.renumbered taken.length)).map Entry.name).Nodup := by
      rwa [Declares.nodup_names renumbered, Entry.map_base_renumbered]
    have new : newEntries c ext taken.length [] items = .ok ([] ++ es.map (Entry.renumbered taken.length)) :=
      newEntries_of_declares renumbered unknown names
    rw [← h.extensions_length] at new
    exact ⟨_, register_of_newEntries told new⟩

theorem isSound_iff : ext.isSound = true ↔ ext.Sound := by
  rw [← (holds_empty defaultSpace).register_iff, Extension.isSound]
  cases (Catalogue.empty defaultSpace).register ext with
  | ok r => simp [Except.isOk, Except.toBool]
  | error f => simp [Except.isOk, Except.toBool]

/-- Sound extensions are all taken in, and numbered one after the other. -/
theorem Holds.registerAll_of_sound {taken exts : List (Extension σ)} (h : Holds c taken)
    (sound : ∀ ext ∈ exts, ext.Sound) :
    (registerAll c exts).2 = (List.range' taken.length exts.length).map .ok ∧
      Holds (registerAll c exts).1 (taken ++ exts) := by
  induction exts generalizing c taken with
  | nil => exact ⟨rfl, by simpa [registerAll] using h⟩
  | cons ext exts ih =>
    rw [List.forall_mem_cons] at sound
    obtain ⟨⟨c', index⟩, ok⟩ := h.register_iff.mpr sound.1
    obtain ⟨rfl, -, holds⟩ := h.register ok
    obtain ⟨numbers, holds'⟩ := ih holds sound.2
    rw [List.append_assoc] at holds'
    rw [List.length_append] at numbers
    simp only [registerAll, ok, numbers]
    exact ⟨rfl, holds'⟩

end Catalogue

/-- What stands behind a name, if no other attribute has it. -/
theorem Extension.attribute?_of_mem {name : String} {handler : Handler σ}
    (distinct : (ext.attributes.map (·.1)).Nodup) (member : (name, handler) ∈ ext.attributes) :
    ext.attribute? name = some handler := by
  have found : ext.attributes.find? (·.1 == name) = some (name, handler) := find?_key_of_mem distinct member
  rw [Extension.attribute?, found]
  rfl

namespace Descriptor

/-- A declaration as an extension may write it. -/
def toValue (d : Descriptor) : Value :=
  .object [("name", .text d.name), ("kind", .text d.kind.name), ("params", .list (d.params.map .text)),
    ("description", .text d.description)]

theorem itemsFrom_texts (n : ℕ) (params : List String) :
    Checked.itemsFrom Checked.text n (params.map .text) = .good params := by
  induction params generalizing n with
  | nil => rfl
  | cons p params ih =>
    rw [List.map_cons, Checked.itemsFrom, ih]
    rfl

theorem kindOf_name (kind : CapabilityKind) : kindOf (.text kind.name) = kind := by
  cases kind <;> decide

/-- A declaration is read as it was meant. -/
theorem validate_toValue {d : Descriptor} (named : d.name ≠ "") : validate d.toValue = .ok d := by
  have name : Checked.nonEmptyText (.text d.name) = .good d.name := by
    simp [Checked.nonEmptyText, named]
  have params : Checked.texts (.list (d.params.map .text)) = .good d.params := itemsFrom_texts 0 d.params
  simp [validate, toValue, Checked.object, ofMembers, Checked.closed, Checked.required, Checked.optional,
    Value.lookup, name, params, kindOf_name, Checked.text, Checked.under, Checked.report, Functor.map, Checked.map,
    Seq.seq, Checked.apply]

end Descriptor

namespace Toolbox

/-- What the built-in extension declares. -/
def descriptors : List Descriptor :=
  (tools.map fun t => .function t.name t.params t.description) ++ values.map (·.1)

/-- What stands behind the built-in capabilities. -/
def handlers : List (String × Handler σ) :=
  (tools.map fun t => (t.name, .builtin t.builtin)) ++ values.map fun v => (v.1.name, .value v.2)

/-- The built-in capabilities as those of an extension like any other. -/
def extension : Extension σ :=
  ⟨.text "DefaultExtension", [], .ok (.list (descriptors.map Descriptor.toValue)), handlers⟩

theorem named : ∀ d ∈ descriptors, d.name ≠ "" := by decide +kernel

theorem nodup_names : (descriptors.map (·.name)).Nodup := by decide +kernel

theorem told_extension : (extension : Extension σ).told = .ok (descriptors.map Descriptor.toValue) := by
  have some : (Value.list (descriptors.map Descriptor.toValue)).isSomething = true := rfl
  simp only [Extension.told, extension, some, if_true]
  rfl

theorem attribute?_of_mem {name : String} {handler : Handler σ} (member : (name, handler) ∈ handlers) :
    (extension : Extension σ).attribute? name = .some handler := by
  have names : (handlers : List (String × Handler σ)).map (·.1) = descriptors.map (·.name) := by
    simp only [handlers, descriptors, List.map_append, List.map_map]
    rfl
  refine Extension.attribute?_of_mem ?_ member
  rw [extension, names]
  exact nodup_names

/-- The built-in entries are what the built-in extension declares. -/
theorem declares_entries :
    List.Forall₂ (Declares (extension : Extension σ) 0) (descriptors.map Descriptor.toValue) entries := by
  rw [descriptors, List.map_append, entries]
  refine List.rel_append ?_ ?_
  · rw [List.map_map, List.forall₂_map_left_iff, List.forall₂_map_right_iff, List.forall₂_same]
    intro t member
    have declared : Descriptor.function t.name t.params t.description ∈ descriptors :=
      List.mem_append_left _ (List.mem_map_of_mem member)
    refine ⟨Descriptor.validate_toValue (named _ declared), rfl, attribute?_of_mem ?_, fun _ => rfl⟩
    exact List.mem_append_left _ (List.mem_map_of_mem member)
  · rw [List.map_map, List.forall₂_map_left_iff, List.forall₂_map_right_iff, List.forall₂_same]
    intro v member
    have declared : v.1 ∈ descriptors := List.mem_append_right _ (List.mem_map_of_mem member)
    have kinds : ∀ v ∈ values, v.1.kind ≠ .function := by decide
    refine ⟨Descriptor.validate_toValue (named _ declared), rfl, attribute?_of_mem ?_, fun function => ?_⟩
    · exact List.mem_append_right _ (List.mem_map_of_mem member)
    · exact absurd function (kinds v member)

/-- The catalogue to start with is the one of the built-in extension, which gets number zero. -/
theorem register_extension :
    (Catalogue.empty defaultSpace).register (extension : Extension σ) = .ok (catalogue, 0) := by
  have distinct : ((entries : List (Entry σ)).map Entry.name).Nodup := by
    rw [Declares.nodup_names declares_entries]
    have bases : (entries : List (Entry σ)).map Entry.base = descriptors.map (·.name) := by
      simp only [entries, descriptors, List.map_append, List.map_map]
      rfl
    rw [bases]
    exact nodup_names
  have new : newEntries (.empty defaultSpace) (extension : Extension σ) 0 [] (descriptors.map Descriptor.toValue) =
      .ok ([] ++ entries) :=
    newEntries_of_declares declares_entries (fun _ _ => rfl) distinct
  exact register_of_newEntries told_extension new

end Toolbox

end Stepwise
