import Mathlib.Data.List.Basic
import Stepwise.Capability.Toolbox
import Stepwise.Proofs.FileWork

/-!
What the file capabilities answer, and the faults that they pass on. An error of the file system becomes an
answer where a capability guards its work; passed on are the loss of the working directory, the name of a user
without a directory, a path that is too long, a null character, and a text that cannot be coded.
-/

namespace Stepwise.Files

open Act FileTree

variable {α β : Type} {site : Site} {encoding : Value} {t t' : FileTree} {p q : Path} {f : Fault}

theorem present_error : t.present p = .error f ↔ TooLong t p f := question_error

theorem isDirectory_error : t.isDirectory p = .error f ↔ TooLong t p f := question_error

theorem system_of_tooLong (long : TooLong t p f) : f.isSystem = true := by
  rw [long.2.2]
  rfl

/-! Finding the path that is meant. -/

/-- The path begins with the name of a user whose directory is not known. -/
def Unhoused (site : Site) (p : Path) : Prop :=
  p.root = "" ∧ ∃ first user rest, p.parts = first :: rest ∧ first.toList = '~' :: user ∧ user ≠ [] ∧
    ∀ h ∈ site.homes, h.1.toList ≠ user

/-- The fault of a user without a directory. -/
def noHome : Fault := .general .runtime "Could not determine home directory."

theorem expandHome_error : expandHome site p = .error f ↔ Unhoused site p ∧ f = noHome := by
  unfold expandHome
  split
  · next first rest root parts =>
    split
    · next user tilde =>
      by_cases own : user = []
      · subst own
        constructor
        · intro h
          cases h
        · rintro ⟨⟨-, first', user', rest', parts', tilde', foreign, -⟩, -⟩
          rw [parts] at parts'
          cases parts'
          rw [tilde] at tilde'
          cases tilde'
          exact absurd rfl foreign
      · have foreign : user.isEmpty = false := by simpa only [List.isEmpty_eq_false_iff] using own
        simp only [foreign, Bool.false_eq_true, if_false]
        cases found : site.homes.find? (·.1.toList == user) with
        | some h =>
          constructor
          · intro ended
            cases ended
          · rintro ⟨⟨-, first', user', rest', parts', tilde', -, unknown⟩, -⟩
            rw [parts] at parts'
            cases parts'
            rw [tilde] at tilde'
            cases tilde'
            have same := List.find?_some found
            exact absurd (eq_of_beq same) (unknown h (List.mem_of_find?_eq_some found))
        | none =>
          have unknown : ∀ h ∈ site.homes, h.1.toList ≠ user := by
            intro h hh same
            exact List.find?_eq_none.mp found h hh (beq_iff_eq.mpr same)
          constructor
          · intro ended
            exact ⟨⟨root, first, user, rest, parts, tilde, own, unknown⟩, (Except.error.inj ended).symm⟩
          · rintro ⟨-, rfl⟩
            rfl
    · next plain =>
      constructor
      · intro h
        cases h
      · rintro ⟨⟨-, first', user', rest', parts', tilde', -⟩, -⟩
        rw [parts] at parts'
        cases parts'
        exact absurd tilde' (plain user')
  · next other =>
    constructor
    · intro h
      cases h
    · rintro ⟨⟨root, first', user', rest', parts', -⟩, -⟩
      exact absurd parts' (other first' rest' root)

/-- The working directory is not there, or its path is too long to tell. -/
def Adrift (site : Site) (t : FileTree) (f : Fault) : Prop :=
  TooLong t site.directory f ∨ t.isDirectory site.directory = .ok false ∧ f = .system ⟨.noEntry, []⟩

/-- The working directory is there, but an argument names a user whose directory is not known. -/
def Homeless (site : Site) (t : FileTree) (arg : Value) (f : Fault) : Prop :=
  t.isDirectory site.directory = .ok true ∧ Unhoused site (.ofText arg.display) ∧ f = noHome

/-- The working directory is there, and an argument means this path. -/
def Means (site : Site) (t : FileTree) (arg : Value) (p : Path) : Prop :=
  t.isDirectory site.directory = .ok true ∧
    ∃ q, expandHome site (.ofText arg.display) = .ok q ∧ p = site.directory ++ q

/-- The path that an argument means is not found. -/
def Lost (site : Site) (t : FileTree) (arg : Value) (f : Fault) : Prop :=
  Adrift site t f ∨ Homeless site t arg f

theorem Adrift.system (h : Adrift site t f) : f.isSystem = true := by
  rcases h with long | ⟨-, rfl⟩
  · exact system_of_tooLong long
  · rfl

theorem Homeless.other {arg : Value} (h : Homeless site t arg f) : f.isSystem = false := by
  rw [h.2.2]
  rfl

theorem raises_resolve {arg : Value} :
    Raises (resolve site arg) t f ↔ Lost site t arg f := by
  unfold resolve Lost Adrift Homeless
  rw [raises_bind, raises_ask, isDirectory_error, or_assoc, ← expandHome_error]
  refine or_congr_right ?_
  simp only [gives_ask]
  constructor
  · rintro ⟨b, t', ⟨there, rfl⟩, raised⟩
    cases b with
    | false => exact .inl ⟨there, raises_fail.mp raised⟩
    | true =>
      refine .inr ⟨there, ?_⟩
      simp only [if_true] at raised
      cases home : expandHome site (.ofText arg.display) with
      | ok q =>
        rw [home] at raised
        exact (raises_pure.mp raised).elim
      | error g =>
        rw [home] at raised
        rw [raises_fail.mp raised]
  · rintro (⟨gone, rfl⟩ | ⟨there, home⟩)
    · exact ⟨false, t, ⟨gone, rfl⟩, raises_fail.mpr rfl⟩
    · refine ⟨true, t, ⟨there, rfl⟩, ?_⟩
      simp only [if_true, home]
      exact raises_fail.mpr rfl

theorem gives_resolve {arg : Value} : Gives (resolve site arg) t p t' ↔ Means site t arg p ∧ t' = t := by
  unfold resolve Means
  simp only [gives_bind, gives_ask]
  constructor
  · rintro ⟨b, t'', ⟨there, rfl⟩, given⟩
    cases b with
    | false => exact (gives_fail.mp given).elim
    | true =>
      simp only [if_true] at given
      cases home : expandHome site (.ofText arg.display) with
      | error g =>
        rw [home] at given
        exact (gives_fail.mp given).elim
      | ok q =>
        rw [home] at given
        obtain ⟨same, left⟩ := gives_pure.mp given
        exact ⟨⟨there, q, rfl, same⟩, left⟩
  · rintro ⟨⟨there, q, home, rfl⟩, rfl⟩
    refine ⟨true, t', ⟨there, rfl⟩, ?_⟩
    simp only [if_true, home]
    exact gives_pure.mpr ⟨rfl, rfl⟩

theorem leaves_resolve {arg : Value} (proper : Proper t) : Leaves (resolve site arg) t := by
  unfold resolve
  refine leaves_bind proper fun b t' _ proper' => ?_
  cases b with
  | false => exact proper'
  | true =>
    rw [if_pos rfl]
    split
    · exact proper'
    · exact proper'

theorem world_resolve {arg : Value} : (resolve site arg t).world = t := by
  unfold resolve
  cases there : t.isDirectory site.directory with
  | error f => rw [ask_bind_of_error there]
  | ok b =>
    rw [ask_bind_of_ok there]
    cases b with
    | false => rfl
    | true =>
      rw [if_pos rfl]
      cases expandHome site (Path.ofText arg.display) with
      | ok q => rfl
      | error f => rfl

/-! Guarding work. -/

section Guard

variable {name : String} {subject : List Value} {answer : Value} {m : FileAct Value}

/-- Guarded work passes on what is no error of the file system. -/
theorem raises_guarded :
    Raises (guarded name subject answer m) t f ↔ Passes m t f := by
  unfold guarded
  rw [raises_attempt_bind]
  unfold Passes Raises
  cases ended : (m t).result with
  | ok v =>
    constructor
    · intro raised
      exact (raises_pure.mp raised).elim
    · rintro ⟨no, -⟩
      cases no
  | error g =>
    dsimp only
    cases system : g.isSystem with
    | true =>
      constructor
      · intro raised
        rcases raises_bind.mp raised with no | ⟨-, t', -, no⟩
        · exact (raises_say.mp no).elim
        · exact (raises_pure.mp no).elim
      · rintro ⟨same, other⟩
        cases same
        rw [system] at other
        cases other
    | false =>
      constructor
      · intro raised
        cases raises_fail.mp raised
        exact ⟨rfl, system⟩
      · rintro ⟨same, -⟩
        cases same
        exact raises_fail.mpr rfl

/-- Guarded work has the result of the work, or the answer that stands for an error. -/
theorem gives_guarded {v : Value} (h : Gives (guarded name subject answer m) t v t') :
    v = answer ∨ Gives m t v t' := by
  unfold guarded at h
  obtain ⟨r, t'', given, h⟩ := gives_bind.mp h
  obtain ⟨result, world⟩ := gives_attempt.mp given
  cases r with
  | ok w =>
    obtain ⟨rfl, rfl⟩ := gives_pure.mp h
    exact .inr ⟨result, world⟩
  | error g =>
    dsimp only at h
    split at h
    · obtain ⟨-, t₃, -, h⟩ := gives_bind.mp h
      exact .inl (gives_pure.mp h).1
    · exact (gives_fail.mp h).elim

theorem leaves_guarded (h : Leaves m t) : Leaves (guarded name subject answer m) t := by
  unfold guarded
  refine leaves_bind (leaves_attempt h) fun r t' _ proper' => ?_
  cases r with
  | ok v => exact proper'
  | error g =>
    dsimp only
    split
    · exact proper'
    · exact proper'

theorem world_guarded :
    (guarded name subject answer m t).world = (m t).world := by
  unfold guarded
  rw [bind_apply, attempt_apply, Outcome.andThen_ok]
  cases (m t).result with
  | ok v => rfl
  | error f =>
    dsimp only
    split
    · rfl
    · rfl

theorem world_then_pure {m : FileAct Unit} {v : Value} : ((m >>= fun _ => pure v) t).world = (m t).world := by
  rw [bind_apply]
  rcases m t with ⟨f | u, t', log⟩
  · rfl
  · rfl

theorem done_of_then_pure {m : FileAct Unit} {v w : Value} (h : ((m >>= fun _ => pure v) t).result = .ok w) :
    (m t).result = .ok () := by
  obtain ⟨u, t', given, -⟩ := gives_bind.mp ⟨h, rfl⟩
  exact given.1

theorem guarded_of_ok {v : Value} (h : (m t).result = .ok v) : (guarded name subject answer m t).result = .ok v := by
  unfold guarded
  rw [bind_apply, attempt_apply, Outcome.andThen_ok, h]
  rfl

theorem then_pure_of_ok {m : FileAct Unit} {v : Value} (h : (m t).result = .ok ()) :
    ((m >>= fun _ => pure v) t).result = .ok v := by
  have given : Gives (m >>= fun _ => pure v) t v (m t).world :=
    gives_bind.mpr ⟨(), _, ⟨h, rfl⟩, gives_pure.mpr ⟨rfl, rfl⟩⟩
  exact given.1

/-- What is asked before the work is passed on if it goes unanswered; without a yes there is no work. -/
theorem raises_probe {q : FileTree → Except Fault Bool} {yes : FileAct Value} {no : Value} :
    Raises (ask q >>= fun b => if b = true then yes else pure no) t f ↔
      q t = .error f ∨ q t = .ok true ∧ Raises yes t f := by
  rw [raises_bind, raises_ask]
  refine or_congr_right ?_
  simp only [gives_ask]
  constructor
  · rintro ⟨b, t', ⟨asked, rfl⟩, raised⟩
    cases b with
    | false => exact (raises_pure.mp raised).elim
    | true => exact ⟨asked, raised⟩
  · rintro ⟨asked, raised⟩
    exact ⟨true, t, ⟨asked, rfl⟩, raised⟩

/-- Work on a path that is looked for first. -/
theorem raises_resolve_bind {arg : Value} {k : Path → FileAct β} :
    Raises (resolve site arg >>= k) t f ↔
      Lost site t arg f ∨ ∃ p, Means site t arg p ∧ Raises (k p) t f := by
  rw [raises_bind, raises_resolve]
  refine or_congr_right (exists_congr fun p => ?_)
  simp only [gives_resolve]
  constructor
  · rintro ⟨t', ⟨meant, rfl⟩, raised⟩
    exact ⟨meant, raised⟩
  · rintro ⟨meant, raised⟩
    exact ⟨t, ⟨meant, rfl⟩, raised⟩

theorem passes_resolve_bind {arg : Value} {k : Path → FileAct β} :
    Passes (resolve site arg >>= k) t f ↔
      Homeless site t arg f ∨ ∃ p, Means site t arg p ∧ Passes (k p) t f := by
  unfold Passes
  rw [raises_resolve_bind]
  constructor
  · rintro ⟨(adrift | homeless) | ⟨p, meant, raised⟩, other⟩
    · rw [adrift.system] at other
      cases other
    · exact .inl homeless
    · exact .inr ⟨p, meant, raised, other⟩
  · rintro (homeless | ⟨p, meant, raised, other⟩)
    · exact ⟨.inl (.inr homeless), homeless.other⟩
    · exact ⟨.inr ⟨p, meant, raised⟩, other⟩

/-- A question that guarded work asks is always answered, with a fault of the file system if need be. -/
theorem passes_question {p : Path} {q : Node → Bool} {k : Bool → FileAct β} :
    Passes (ask (fun t => t.question p q) >>= k) t f ↔ ∃ b, t.question p q = .ok b ∧ Passes (k b) t f := by
  rw [passes_bind]
  have mild : ¬ Passes (ask fun t => t.question p q) t f := (mild_ask onlySystem_question).not_passes
  simp only [mild, false_or, gives_ask]
  constructor
  · rintro ⟨b, t', ⟨asked, rfl⟩, passed⟩
    exact ⟨b, asked, passed⟩
  · rintro ⟨b, asked, passed⟩
    exact ⟨b, t, ⟨asked, rfl⟩, passed⟩

/-- Guarded work that depends on such a question passes on what the work after a yes does. -/
theorem passes_probe {p : Path} {q : Node → Bool} {yes : FileAct Value} {no : Value} :
    Passes (ask (fun t => t.question p q) >>= fun b => if b = true then yes else pure no) t f ↔
      t.question p q = .ok true ∧ Passes yes t f := by
  rw [passes_question]
  constructor
  · rintro ⟨b, asked, passed⟩
    cases b with
    | false => exact (passes_pure.mp passed).elim
    | true => exact ⟨asked, passed⟩
  · rintro ⟨asked, passed⟩
    exact ⟨true, asked, passed⟩

end Guard

/-! Texts in files. -/

theorem encodingName_other (h : encodingName encoding = .error f) : f.isSystem = false := by
  unfold encodingName at h
  split at h
  · split at h
    · cases h
      rfl
    · cases h
  · cases h
  · cases h
    rfl

theorem encodingOf_other {name : String} (h : encodingOf name = .error f) : f.isSystem = false := by
  unfold encodingOf at h
  split at h
  · cases h
  · split at h
    · cases h
      rfl
    · cases h
      rfl

theorem codingFault_other (e : Text.CodingError) : (codingFault e).isSystem = false := by
  cases e <;> rfl

theorem coded_error {r : Except Text.CodingError α} :
    r.mapError codingFault = .error f ↔ ∃ e, r = .error e ∧ f = codingFault e := by
  cases r with
  | ok a =>
    constructor
    · intro h
      cases h
    · rintro ⟨e, no, -⟩
      cases no
  | error e =>
    constructor
    · intro h
      exact ⟨e, rfl, (Except.error.inj h).symm⟩
    · rintro ⟨e', same, rfl⟩
      cases same
      rfl

/-- Why a text cannot be put into a file, other than for an error of the file system: the name of the
encoding is refused; the path holds a null character; or, the file being open, there is no such encoding or it
lacks a character. `opening` is what opening does to the file, and `begins` tells whether the text begins it. -/
inductive Unwritten (encoding : Value) (opening : List UInt8 → List UInt8) (begins : FileTree → Bool → Prop)
    (t : FileTree) (p : Path) (s : String) : Fault → Prop
  | named {f : Fault} (refused : encodingName encoding = .error f) :
      Unwritten encoding opening begins t p s f
  | null {name : String} (named : encodingName encoding = .ok name) (null : p.hasNull = true) :
      Unwritten encoding opening begins t p s nullByte
  | unknown {name : String} {t' : FileTree} {f : Fault} (named : encodingName encoding = .ok name)
      (opened : t.writeFile p opening = .ok t') (unknown : encodingOf name = .error f) :
      Unwritten encoding opening begins t p s f
  | lacking {name : String} {t' : FileTree} {e : Text.Encoding} {start : Bool} {g : Text.CodingError}
      (named : encodingName encoding = .ok name) (opened : t.writeFile p opening = .ok t')
      (known : encodingOf name = .ok e) (first : begins t' start)
      (lack : e.encode start s.toList = .error g) : Unwritten encoding opening begins t p s (codingFault g)

theorem Unwritten.other {opening : List UInt8 → List UInt8} {begins : FileTree → Bool → Prop} {s : String}
    (h : Unwritten encoding opening begins t p s f) : f.isSystem = false := by
  cases h with
  | named refused => exact encodingName_other refused
  | null _ _ => rfl
  | unknown _ _ unknown => exact encodingOf_other unknown
  | lacking _ _ _ _ _ => exact codingFault_other _

/-- A text that replaces a file always begins it. -/
abbrev Unreplaced (encoding : Value) : FileTree → Path → String → Fault → Prop :=
  Unwritten encoding (fun _ => []) fun _ start => start = true

/-- A text that is added begins the file if the file is empty. -/
abbrev Unadded (encoding : Value) (t : FileTree) (p : Path) : String → Fault → Prop :=
  Unwritten encoding id (fun t' start => ∃ old, t'.readFile p = .ok old ∧ start = old.isEmpty) t p

theorem clear_of_writeFile {change : List UInt8 → List UInt8} (h : t.writeFile p change = .ok t') :
    p.hasNull = false := by
  cases null : p.hasNull with
  | false => rfl
  | true =>
    rw [writeFile_of_null null] at h
    cases h

/-- A file is not opened for a null character, or for an error of the file system. -/
theorem null_of_writeFile {change : List UInt8 → List UInt8} (h : t.writeFile p change = .error f)
    (other : f.isSystem = false) : p.hasNull = true ∧ f = nullByte := by
  cases null : p.hasNull with
  | true =>
    rw [writeFile_of_null null] at h
    exact ⟨rfl, (Except.error.inj h).symm⟩
  | false =>
    rw [onlySystem_writeFile null f h] at other
    cases other

theorem passes_writeText {s : String} :
    Passes (writeText encoding p s) t f ↔ Unreplaced encoding t p s f := by
  unfold writeText Passes
  simp only [raises_bind, raises_ofExcept, gives_ofExcept, raises_edit, gives_edit, coded_error]
  constructor
  · rintro ⟨refused | ⟨name, _, ⟨named, rfl⟩, refused | ⟨_, t', opened, h⟩⟩, other⟩
    · exact .named refused
    · obtain ⟨null, rfl⟩ := null_of_writeFile refused other
      exact .null named null
    · rcases h with unknown | ⟨e, _, ⟨known, rfl⟩, ⟨g, lack, rfl⟩ | ⟨bytes, _, -, refused⟩⟩
      · exact .unknown named opened unknown
      · exact .lacking named opened known rfl lack
      · rw [onlySystem_writeFile (clear_of_writeFile opened) f refused] at other
        cases other
  · intro h
    refine ⟨?_, h.other⟩
    cases h with
    | named refused => exact .inl refused
    | null named null => exact .inr ⟨_, t, ⟨named, rfl⟩, .inl (writeFile_of_null null)⟩
    | unknown named opened unknown => exact .inr ⟨_, t, ⟨named, rfl⟩, .inr ⟨(), _, opened, .inl unknown⟩⟩
    | lacking named opened known first lack =>
      subst first
      exact .inr ⟨_, t, ⟨named, rfl⟩, .inr ⟨(), _, opened, .inr ⟨_, _, ⟨known, rfl⟩, .inl ⟨_, lack, rfl⟩⟩⟩⟩

theorem passes_appendText {s : String} :
    Passes (appendText encoding p s) t f ↔ Unadded encoding t p s f := by
  unfold appendText Passes
  simp only [raises_bind, raises_ofExcept, gives_ofExcept, raises_edit, gives_edit, raises_ask, gives_ask,
    coded_error]
  constructor
  · rintro ⟨refused | ⟨name, _, ⟨named, rfl⟩, refused | ⟨_, t', opened, h⟩⟩, other⟩
    · exact .named refused
    · obtain ⟨null, rfl⟩ := null_of_writeFile refused other
      exact .null named null
    · have clear := clear_of_writeFile opened
      rcases h with unknown | ⟨e, _, ⟨known, rfl⟩, unread | ⟨old, _, ⟨read, rfl⟩, h⟩⟩
      · exact .unknown named opened unknown
      · rw [onlySystem_readFile clear f unread] at other
        cases other
      · rcases h with ⟨g, lack, rfl⟩ | ⟨bytes, _, -, refused⟩
        · exact .lacking named opened known ⟨old, read, rfl⟩ lack
        · rw [onlySystem_writeFile clear f refused] at other
          cases other
  · intro h
    refine ⟨?_, h.other⟩
    cases h with
    | named refused => exact .inl refused
    | null named null => exact .inr ⟨_, t, ⟨named, rfl⟩, .inl (writeFile_of_null null)⟩
    | unknown named opened unknown => exact .inr ⟨_, t, ⟨named, rfl⟩, .inr ⟨(), _, opened, .inl unknown⟩⟩
    | lacking named opened known first lack =>
      obtain ⟨old, read, rfl⟩ := first
      exact .inr ⟨_, t, ⟨named, rfl⟩, .inr ⟨(), _, opened, .inr ⟨_, _, ⟨known, rfl⟩,
        .inr ⟨old, _, ⟨read, rfl⟩, .inl ⟨_, lack, rfl⟩⟩⟩⟩⟩

theorem leaves_writeText {s : String} (proper : Proper t) : Leaves (writeText encoding p s) t := by
  unfold writeText
  refine leaves_bind proper fun name t₁ _ proper₁ => ?_
  refine leaves_bind (leaves_edit proper₁ fun _ => proper₁.writeFile) fun _ t₂ _ proper₂ => ?_
  refine leaves_bind proper₂ fun e t₃ _ proper₃ => ?_
  refine leaves_bind proper₃ fun bytes t₄ _ proper₄ => ?_
  exact leaves_edit proper₄ fun _ => proper₄.writeFile

theorem leaves_appendText {s : String} (proper : Proper t) : Leaves (appendText encoding p s) t := by
  unfold appendText
  refine leaves_bind proper fun name t₁ _ proper₁ => ?_
  refine leaves_bind (leaves_edit proper₁ fun _ => proper₁.writeFile) fun _ t₂ _ proper₂ => ?_
  refine leaves_bind proper₂ fun e t₃ _ proper₃ => ?_
  refine leaves_bind proper₃ fun old t₄ _ proper₄ => ?_
  refine leaves_bind proper₄ fun bytes t₅ _ proper₅ => ?_
  exact leaves_edit proper₅ fun _ => proper₅.writeFile

/-- Why the text of a file cannot be told, other than for an error of the file system or for bytes at a known
position: the name of the encoding is refused; or, the bytes being read, there is no such encoding or they are
refused as a whole. -/
inductive Unread (encoding : Value) (t : FileTree) (p : Path) : Fault → Prop
  | named {f : Fault} (refused : encodingName encoding = .error f) : Unread encoding t p f
  | unknown {name : String} {bytes : List UInt8} {f : Fault} (named : encodingName encoding = .ok name)
      (read : t.readFile p = .ok bytes) (unknown : encodingOf name = .error f) : Unread encoding t p f
  | refused {name : String} {bytes : List UInt8} {e : Text.Encoding} {g : Text.CodingError}
      (named : encodingName encoding = .ok name) (read : t.readFile p = .ok bytes)
      (known : encodingOf name = .ok e) (refused : e.decode bytes = .error g)
      (whole : ∀ s, g ≠ .undecodable s) : Unread encoding t p (codingFault g)

theorem codingFault_undecodable {e : Text.CodingError} {s : String} :
    codingFault e = .undecodable s ↔ e = .undecodable s := by
  cases e <;> simp only [codingFault, reduceCtorEq, Fault.undecodable.injEq,
    Text.CodingError.undecodable.injEq]

theorem encodingName_undecodable {s : String} : encodingName encoding ≠ .error (.undecodable s) := by
  unfold encodingName
  intro h
  split at h
  · split at h <;> cases h
  · cases h
  · cases h

theorem encodingOf_undecodable {name s : String} : encodingOf name ≠ .error (.undecodable s) := by
  unfold encodingOf
  intro h
  split at h
  · cases h
  · split at h <;> cases h

/-- The text of a file is told, unless for an error of the file system, for bytes at a known position, or for
one of the other reasons. -/
theorem passes_readText (clear : p.hasNull = false) :
    Passes (readText encoding p) t f ∧ (∀ s, f ≠ .undecodable s) ↔ Unread encoding t p f := by
  unfold readText Passes
  simp only [raises_bind, raises_ofExcept, gives_ofExcept, raises_ask, gives_ask, raises_pure, coded_error,
    and_false, exists_false, or_false]
  constructor
  · rintro ⟨⟨refused | ⟨name, _, ⟨named, rfl⟩, h⟩, other⟩, whole⟩
    · exact .named refused
    · rcases h with unread | ⟨bytes, _, ⟨read, rfl⟩, unknown | ⟨e, _, ⟨known, rfl⟩, g, refused, rfl⟩⟩
      · rw [onlySystem_readFile clear f unread] at other
        cases other
      · exact .unknown named read unknown
      · exact .refused named read known refused fun s same => whole s (codingFault_undecodable.mpr same)
  · intro h
    cases h with
    | named refused =>
      refine ⟨⟨.inl refused, encodingName_other refused⟩, fun s same => ?_⟩
      exact encodingName_undecodable (same ▸ refused)
    | unknown named read unknown =>
      refine ⟨⟨.inr ⟨_, t, ⟨named, rfl⟩, .inr ⟨_, t, ⟨read, rfl⟩, .inl unknown⟩⟩, encodingOf_other unknown⟩,
        fun s same => ?_⟩
      exact encodingOf_undecodable (same ▸ unknown)
    | refused named read known refused whole =>
      refine ⟨⟨.inr ⟨_, t, ⟨named, rfl⟩, .inr ⟨_, t, ⟨read, rfl⟩, .inr ⟨_, t, ⟨known, rfl⟩, _, refused, rfl⟩⟩⟩,
        codingFault_other _⟩, fun s same => ?_⟩
      exact whole s (codingFault_undecodable.mp same)

theorem leaves_readText (proper : Proper t) : Leaves (readText encoding p) t := by
  unfold readText
  refine leaves_bind proper fun name t₁ _ proper₁ => ?_
  refine leaves_bind proper₁ fun bytes t₂ _ proper₂ => ?_
  refine leaves_bind proper₂ fun e t₃ _ proper₃ => ?_
  exact leaves_bind proper₃ fun cs t₄ _ proper₄ => proper₄

end Stepwise.Files
