import Stepwise.Proofs.SoundExtensions
import Stepwise.Reference.Assembly

/-!
What is put together from lists of references. A reference is a failing one by itself: its target is not found, it is
no extension or plugin, it cannot be built, or its declarations are not in order. Other references have no part in
that, so the engine is the same as if the failing ones were not in the lists, and each of them is reported once.
-/

namespace Stepwise.Assembly

open Catalogue

variable {σ : Type}

section

variable (load : String → Except Fault (Offer σ))

/-- The extension behind a reference. -/
def extensionAt (ref : String) : Except Fault (Extension σ) := load ref >>= extensionOf ref

/-- The extension behind a reference, if it can be taken in. -/
def extension? (ref : String) : Option (Extension σ) := (extensionAt load ref).toOption.filter Extension.isSound

/-- The plugin behind a reference. -/
def plugin? (ref : String) : Option (Settings → Plugin σ) := (load ref >>= pluginOf ref).toOption

end

/-- The line that a deed shows as an error. -/
def errorLine? : Deed → Option String
  | .show .error line => some line
  | _ => none

/-- Which reference a failure is about, and whether it stands among those of plugins. -/
def place (f : LoadFailure) : Bool × String := (f.plugin, f.ref)

/-- The lines shown as errors are those of the failures, in their order. -/
def Reports (events : List LoadEvent) : Prop :=
  (events.flatMap LoadEvent.deeds).filterMap errorLine? = (failures events).map LoadFailure.line

@[simp] theorem failures_append (events events' : List LoadEvent) :
    failures (events ++ events') = failures events ++ failures events' := List.filterMap_append

@[simp] theorem failures_failed (f : LoadFailure) (events : List LoadEvent) :
    failures (.failed f :: events) = f :: failures events := rfl

theorem failures_of_deeds {events : List LoadEvent} (deeds : ∀ x ∈ events, ∃ d, x = .deed d) :
    failures events = [] := by
  refine List.filterMap_eq_nil_iff.mpr fun x member => ?_
  obtain ⟨d, rfl⟩ := deeds x member
  rfl

namespace Reports

variable {events events' : List LoadEvent}

theorem nil : Reports [] := rfl

theorem append (h : Reports events) (h' : Reports events') : Reports (events ++ events') := by
  unfold Reports at h h' ⊢
  rw [List.flatMap_append, List.filterMap_append, h, h', failures_append, List.map_append]

theorem failed (f : LoadFailure) (h : Reports events) : Reports (.failed f :: events) :=
  congrArg (f.line :: ·) h

/-- Where nothing failed and no error is shown. -/
theorem of_quiet (quiet : ∀ x ∈ events, ∃ d, x = .deed d ∧ errorLine? d = none) : Reports events := by
  have none : failures events = [] :=
    failures_of_deeds fun x member => (quiet x member).imp fun _ deed => deed.1
  rw [Reports, none, List.map_nil, List.filterMap_eq_nil_iff]
  intro d member
  obtain ⟨x, happened, done⟩ := List.mem_flatMap.mp member
  obtain ⟨d', rfl, silent⟩ := quiet x happened
  rw [List.mem_singleton.mp done, silent]

end Reports

section

variable {α : Type}

/-- The references that give something, in their order. -/
def standing (find : String → Option α) (refs : List String) : List String := refs.filter fun ref => (find ref).isSome

/-- The references that give nothing, in their order. -/
def failing (find : String → Option α) (refs : List String) : List String := refs.filter fun ref => (find ref).isNone

variable {find : String → Option α} {ref : String}

theorem failing_of_none (none : find ref = none) (refs : List String) :
    failing find (ref :: refs) = ref :: failing find refs :=
  List.filter_cons_of_pos (by simp [none])

theorem failing_of_some {a : α} (some : find ref = some a) (refs : List String) :
    failing find (ref :: refs) = failing find refs :=
  List.filter_cons_of_neg (by simp [some])

/-- Nothing fails in a list without the references that fail. -/
theorem failing_standing (find : String → Option α) (refs : List String) : failing find (standing find refs) = [] := by
  rw [failing, standing, List.filter_filter]
  exact List.filter_eq_nil_iff.mpr fun ref _ => by cases find ref <;> simp

/-- The references that give something and what they give. -/
theorem forall₂_standing (find : String → Option α) (refs : List String) :
    List.Forall₂ (fun ref a => find ref = some a) (standing find refs) (refs.filterMap find) := by
  induction refs with
  | nil => exact .nil
  | cons ref refs ih =>
    cases found : find ref with
    | none =>
      rw [standing, List.filter_cons_of_neg (by simp [found]), List.filterMap_cons_none found]
      exact ih
    | some a =>
      rw [standing, List.filter_cons_of_pos (by simp [found]), List.filterMap_cons_some found]
      exact .cons found ih

theorem filterMap_standing (find : String → Option α) (refs : List String) :
    (standing find refs).filterMap find = refs.filterMap find := by
  rw [standing, List.filterMap_filter]
  exact List.filterMap_congr fun ref _ => by cases find ref <;> simp

end

section

variable {load : String → Except Fault (Offer σ)} {c : Catalogue σ} {taken : List (Extension σ)} {ref : String}

theorem extension?_eq_some_iff {ext : Extension σ} :
    extension? load ref = some ext ↔ extensionAt load ref = .ok ext ∧ ext.Sound := by
  rw [extension?, Option.filter_eq_some_iff, isSound_iff]
  cases extensionAt load ref <;> simp [Except.toOption]

/-- What is loaded is registered, and anything else fails. -/
theorem takeExtension_fst (load : String → Except Fault (Offer σ)) (c : Catalogue σ) (ref : String) :
    (takeExtension load c ref).1 = extensionAt load ref >>= fun ext => (c.register ext).map (·.1) := by
  unfold takeExtension extensionAt
  cases load ref with
  | error f => rfl
  | ok o =>
    cases build : extensionOf ref o with
    | error f => simp [build, bind, Except.bind]
    | ok ext => cases register : c.register ext <;> simp [build, register, bind, Except.bind, Except.map]

/-- What happens while an extension is taken in, beside its failure: notes, and what it does itself. -/
theorem deed_of_takeExtension {x : LoadEvent} (member : x ∈ (takeExtension load c ref).2) :
    ∃ d, x = .deed d ∧ (errorLine? d = none ∨ ∃ ext, extensionAt load ref = .ok ext ∧ d ∈ ext.declaring) := by
  unfold takeExtension at member
  split at member
  · cases member
  next o loaded =>
    split at member
    next f built =>
      cases List.mem_singleton.mp member
      exact ⟨_, rfl, .inl rfl⟩
    next ext built =>
      have behind : extensionAt load ref = .ok ext := by rw [extensionAt, loaded]; exact built
      have declaring : x ∈ found ref extensionName :: ext.declaring.map .deed →
          ∃ d, x = .deed d ∧ (errorLine? d = none ∨ ∃ ext, extensionAt load ref = .ok ext ∧ d ∈ ext.declaring) := by
        intro early
        rcases List.mem_cons.mp early with rfl | early
        · exact ⟨_, rfl, .inl rfl⟩
        · obtain ⟨d, own, rfl⟩ := List.mem_map.mp early
          exact ⟨d, rfl, .inr ⟨ext, behind, own⟩⟩
      simp only at member
      split at member
      · exact declaring member
      · rcases List.mem_append.mp member with early | last
        · exact declaring early
        · cases List.mem_singleton.mp last
          exact ⟨_, rfl, .inl rfl⟩

theorem failures_takeExtension (load : String → Except Fault (Offer σ)) (c : Catalogue σ) (ref : String) :
    failures (takeExtension load c ref).2 = [] :=
  failures_of_deeds fun _ member => (deed_of_takeExtension member).imp fun _ deed => deed.1

/-- A reference that can be taken in is taken in, whatever was taken in before. -/
theorem takeExtension_of_some (holds : Holds c taken) {ext : Extension σ} (found : extension? load ref = some ext) :
    ∃ c' events, takeExtension load c ref = (.ok c', events) ∧ failures events = [] ∧
      c.register ext = .ok (c', taken.length) := by
  obtain ⟨loaded, sound⟩ := extension?_eq_some_iff.mp found
  obtain ⟨⟨c', index⟩, ok⟩ := holds.register_iff.mpr sound
  obtain ⟨rfl, -⟩ := holds.register ok
  have first : (takeExtension load c ref).1 = .ok c' := by
    rw [takeExtension_fst, loaded]
    simp [bind, Except.bind, ok, Except.map]
  exact ⟨c', _, Prod.ext first rfl, failures_takeExtension load c ref, ok⟩

/-- A reference that cannot be taken in fails, whatever was taken in before. -/
theorem takeExtension_of_none (holds : Holds c taken) (none : extension? load ref = none) :
    ∃ f events, takeExtension load c ref = (.error f, events) ∧ failures events = [] := by
  have first : ∃ f, (takeExtension load c ref).1 = .error f := by
    rw [takeExtension_fst]
    cases loaded : extensionAt load ref with
    | error f => exact ⟨f, rfl⟩
    | ok ext =>
      cases register : c.register ext with
      | error f => exact ⟨f, by simp [bind, Except.bind, register, Except.map]⟩
      | ok r =>
        have found := extension?_eq_some_iff.mpr ⟨loaded, holds.register_iff.mp ⟨r, register⟩⟩
        rw [none] at found
        cases found
  obtain ⟨f, first⟩ := first
  exact ⟨f, _, Prod.ext first rfl, failures_takeExtension load c ref⟩

/-- Those that fail leave the catalogue as it is; the others are registered one after the other. -/
theorem takeExtensions_fst (holds : Holds c taken) (refs : List String) :
    (takeExtensions load c refs).1 = (registerAll c (refs.filterMap (extension? load))).1 := by
  induction refs generalizing c taken with
  | nil => rfl
  | cons ref refs ih =>
    cases found : extension? load ref with
    | none =>
      obtain ⟨f, events, taking, -⟩ := takeExtension_of_none holds found
      rw [takeExtensions, taking, List.filterMap_cons_none found]
      exact ih holds
    | some ext =>
      obtain ⟨c', events, taking, -, registered⟩ := takeExtension_of_some holds found
      rw [takeExtensions, taking, List.filterMap_cons_some found, registerAll, registered]
      exact ih (holds.register registered).2.2

/-- Each reference that cannot be taken in fails once, in the order of the list. -/
theorem failures_takeExtensions (holds : Holds c taken) (refs : List String) :
    (failures (takeExtensions load c refs).2).map place = (failing (extension? load) refs).map (false, ·) := by
  induction refs generalizing c taken with
  | nil => rfl
  | cons ref refs ih =>
    cases found : extension? load ref with
    | none =>
      obtain ⟨f, events, taking, silent⟩ := takeExtension_of_none holds found
      rw [takeExtensions, taking, failing_of_none found]
      simp only [failures_append, silent, failures_failed, List.nil_append, List.map_cons, ih holds]
      rfl
    | some ext =>
      obtain ⟨c', events, taking, silent, registered⟩ := takeExtension_of_some holds found
      rw [takeExtensions, taking, failing_of_some found]
      simp only [failures_append, silent, List.nil_append]
      exact ih (holds.register registered).2.2

/-- A reference that fails gets no number. -/
example :
    let load := fun ref => if ref = "sound" then .ok (.extension "E" (declaring ["x"])) else .error .tooDeep
    let r := takeExtensions load (.empty "base") ["missing", "sound", "broken", "sound"]
    r.1.entries.map Entry.name = ["x_0", "x_1"] ∧
      (failures r.2).map place = [(false, "missing"), (false, "broken")] := by decide +kernel

theorem reports_takeExtensions {refs : List String}
    (quiet : ∀ ref ∈ refs, ∀ ext, extensionAt load ref = .ok ext → ∀ d ∈ ext.declaring, errorLine? d = none)
    (c : Catalogue σ) : Reports (takeExtensions load c refs).2 := by
  induction refs generalizing c with
  | nil => exact .nil
  | cons ref refs ih =>
    rw [List.forall_mem_cons] at quiet
    have own : Reports (takeExtension load c ref).2 := by
      refine .of_quiet fun x member => ?_
      obtain ⟨d, deed, silent | ⟨ext, behind, declaring⟩⟩ := deed_of_takeExtension member
      · exact ⟨d, deed, silent⟩
      · exact ⟨d, deed, quiet.1 ext behind d declaring⟩
    rw [takeExtensions]
    split
    next c' events ok =>
      rw [ok] at own
      exact own.append (ih quiet.2 c')
    next f events failed =>
      rw [failed] at own
      exact own.append (.failed _ (ih quiet.2 c))

end

section

variable {load : String → Except Fault (Offer σ)} {ref : String}

/-- All that happens while a plugin is taken up, beside its failure, is a note. -/
theorem quiet_takePlugin {x : LoadEvent} (member : x ∈ (takePlugin load ref).2) :
    ∃ d, x = .deed d ∧ errorLine? d = none := by
  unfold takePlugin at member
  split at member
  · cases member
  · cases List.mem_singleton.mp member
    exact ⟨_, rfl, rfl⟩

theorem takePlugin_fst (load : String → Except Fault (Offer σ)) (ref : String) :
    (takePlugin load ref).1 = load ref >>= pluginOf ref := by
  unfold takePlugin
  cases load ref <;> rfl

theorem takePlugin_of_some {p : Settings → Plugin σ} (found : plugin? load ref = some p) :
    ∃ events, takePlugin load ref = (.ok p, events) ∧ failures events = [] ∧ Reports events := by
  have first : (takePlugin load ref).1 = .ok p := by
    rw [plugin?, ← takePlugin_fst] at found
    cases taken : (takePlugin load ref).1 with
    | error f => rw [taken] at found; cases found
    | ok q => rw [taken] at found; cases found; rfl
  exact ⟨_, Prod.ext first rfl, failures_of_deeds fun _ member => (quiet_takePlugin member).imp fun _ deed => deed.1,
    .of_quiet fun _ => quiet_takePlugin⟩

theorem takePlugin_of_none (none : plugin? load ref = none) :
    ∃ f events, takePlugin load ref = (.error f, events) ∧ failures events = [] ∧ Reports events := by
  have first : ∃ f, (takePlugin load ref).1 = .error f := by
    rw [plugin?, ← takePlugin_fst] at none
    cases taken : (takePlugin load ref).1 with
    | error f => exact ⟨f, rfl⟩
    | ok q => rw [taken] at none; cases none
  obtain ⟨f, first⟩ := first
  exact ⟨f, _, Prod.ext first rfl, failures_of_deeds fun _ member => (quiet_takePlugin member).imp fun _ deed => deed.1,
    .of_quiet fun _ => quiet_takePlugin⟩

/-- Plugins are taken up in the order of the list, and each reference that gives none fails once. -/
theorem takePlugins_spec (load : String → Except Fault (Offer σ)) (settings : Settings) (n : ℕ) (refs : List String) :
    (takePlugins load settings n refs).1 = refs.filterMap (plugin? load) ∧
      (failures (takePlugins load settings n refs).2).map place = (failing (plugin? load) refs).map (true, ·) ∧
      Reports (takePlugins load settings n refs).2 := by
  induction refs generalizing n with
  | nil => exact ⟨rfl, rfl, .nil⟩
  | cons ref refs ih =>
    cases found : plugin? load ref with
    | none =>
      obtain ⟨f, events, taking, silent, quiet⟩ := takePlugin_of_none found
      obtain ⟨plugins, failed, reports⟩ := ih n
      rw [takePlugins, taking, List.filterMap_cons_none found, failing_of_none found]
      refine ⟨plugins, ?_, quiet.append (.failed _ reports)⟩
      simp only [failures_append, silent, failures_failed, List.nil_append, List.map_cons, failed]
      rfl
    | some p =>
      obtain ⟨events, taking, silent, quiet⟩ := takePlugin_of_some found
      obtain ⟨plugins, failed, reports⟩ := ih (n + 1)
      rw [takePlugins, taking, List.filterMap_cons_some found, failing_of_some found]
      refine ⟨congrArg (p :: ·) plugins, ?_, quiet.append reports⟩
      simp only [failures_append, silent, List.nil_append]
      exact failed

end

/-- What an engine is that is put together from lists of references, and what is told on the way; `load` finds
extensions and `load'` finds plugins. -/
structure Assembled (load load' : String → Except Fault (Offer σ)) (settings : Settings) (host : Host σ)
    (e : Engine σ) (events : List LoadEvent) : Prop where
  /-- The catalogue is made by the built-in extension and the extensions of the references that do not fail. -/
  catalogue : e.catalogue =
    .ofExtensions defaultSpace (Toolbox.extension :: settings.extensions.filterMap (extension? load))
  loaded : List.Forall₂ (fun ref ext => extensionAt load ref = .ok ext) (standing (extension? load) settings.extensions)
    (settings.extensions.filterMap (extension? load))
  /-- The built-in extension has number zero, and the others follow it. -/
  numbers : outcomes defaultSpace (Toolbox.extension :: settings.extensions.filterMap (extension? load)) =
    (List.range ((standing (extension? load) settings.extensions).length + 1)).map .ok
  holds : e.catalogue.Holds (Toolbox.extension :: settings.extensions.filterMap (extension? load))
  /-- After the plugins that were there before come the built-in one and those of the references that do not fail. -/
  participants : ∀ s : Settings, { e with settings := s }.participants = host.preceding.map (· s) ++
    .planEcho s.echoPlan :: (settings.plugins.filterMap (plugin? load')).map (· s)
  /-- The built-in plugin is the first of a pipeline that was empty. -/
  first : host.preceding = [] →
    ∀ s : Settings, ({ e with settings := s } : Engine σ).participants.head? = some (.planEcho s.echoPlan)
  /-- What fails is told of once, the extensions before the plugins. -/
  failed : (failures events).map place =
    (failing (extension? load) settings.extensions).map (false, ·) ++
      (failing (plugin? load') settings.plugins).map (true, ·)
  /-- The error lines are those of the failures, if extensions show none while they declare. -/
  reported : (∀ ref ∈ settings.extensions, ∀ ext, extensionAt load ref = .ok ext →
    ∀ d ∈ ext.declaring, errorLine? d = none) → Reports events

section

variable (load load' : String → Except Fault (Offer σ)) (settings : Settings) (site : Site) (host : Host σ)

/-- The engine for settings, wherever extensions and plugins are found, with what happened on the way. -/
def assembleFrom : Engine σ × List LoadEvent :=
  let c := takeExtensions load Toolbox.catalogue settings.extensions
  let p := takePlugins load' settings (host.preceding.length + 1) settings.plugins
  let e : Engine σ := ⟨settings, site, c.1, p.1, host⟩
  (e, [registered builtin (.empty defaultSpace : Catalogue σ) Toolbox.catalogue] ++ c.2 ++
    installed Plugin.planEchoName host.preceding.length :: p.2 ++ [ready e])

/-- The settings without the references that fail. -/
def pruned : Settings :=
  { settings with
    extensions := standing (extension? load) settings.extensions
    plugins := standing (plugin? load') settings.plugins }

/-- Which extensions are taken in, and which number each of them gets, is told by the references alone. -/
theorem registered_standing (refs : List String) :
    outcomes defaultSpace (Toolbox.extension :: refs.filterMap (extension? load)) =
        (List.range ((standing (extension? load) refs).length + 1)).map .ok ∧
      (ofExtensions defaultSpace (Toolbox.extension :: refs.filterMap (extension? load))).Holds
        (Toolbox.extension :: refs.filterMap (extension? load)) := by
  have sound : ∀ ext ∈ Toolbox.extension :: refs.filterMap (extension? load), ext.Sound := by
    rw [List.forall_mem_cons]
    refine ⟨(holds_empty defaultSpace).register_iff.mp ⟨_, Toolbox.register_extension⟩, fun ext member => ?_⟩
    obtain ⟨ref, -, found⟩ := List.mem_filterMap.mp member
    exact (extension?_eq_some_iff.mp found).2
  obtain ⟨numbers, holds⟩ := (holds_empty defaultSpace).registerAll_of_sound sound
  have length := (forall₂_standing (extension? load) refs).length_eq
  rw [List.length_nil, List.length_cons, ← length, ← List.range_eq_range'] at numbers
  exact ⟨numbers, holds⟩

theorem assembled : Assembled load load' settings host (assembleFrom load load' settings site host).1
    (assembleFrom load load' settings site host).2 := by
  have start : Toolbox.catalogue.Holds [(Toolbox.extension : Extension σ)] :=
    ((holds_empty defaultSpace).register Toolbox.register_extension).2.2
  obtain ⟨numbers, holds⟩ := registered_standing load settings.extensions
  have catalogue : (assembleFrom load load' settings site host).1.catalogue =
      .ofExtensions defaultSpace (Toolbox.extension :: settings.extensions.filterMap (extension? load)) := by
    rw [ofExtensions, registerAll, Toolbox.register_extension]
    exact takeExtensions_fst start settings.extensions
  have refused : (failures (takeExtensions load _ _).2).map place = _ :=
    failures_takeExtensions start settings.extensions
  obtain ⟨plugins, refused', reports'⟩ := takePlugins_spec load' settings (host.preceding.length + 1) settings.plugins
  have participants : ∀ s : Settings,
      { (assembleFrom load load' settings site host).1 with settings := s }.participants = host.preceding.map (· s) ++
        .planEcho s.echoPlan :: (settings.plugins.filterMap (plugin? load')).map (· s) := by
    intro s
    rw [← plugins]
    rfl
  -- Between what happens to the references there are only notes.
  have note : ∀ source text, Reports [.note source text] := fun _ _ => rfl
  refine ⟨catalogue, ?_, numbers, ?_, participants, fun empty s => ?_, ?_, fun quiet => ?_⟩
  · exact (forall₂_standing (extension? load) settings.extensions).imp
      fun _ _ found => (extension?_eq_some_iff.mp found).1
  · rw [catalogue]
    exact holds
  · rw [participants, empty]
    rfl
  · rw [assembleFrom, List.append_cons _ (installed Plugin.planEchoName host.preceding.length)]
    simp only [failures_append, List.map_append, refused, refused']
    change [] ++ _ ++ [] ++ _ ++ [] = _
    simp only [List.nil_append, List.append_nil]
  · have reports := reports_takeExtensions quiet Toolbox.catalogue
    rw [assembleFrom, List.append_cons _ (installed Plugin.planEchoName host.preceding.length)]
    exact ((((note _ _).append reports).append (note _ _)).append reports').append (note _ _)

end

end Stepwise.Assembly
