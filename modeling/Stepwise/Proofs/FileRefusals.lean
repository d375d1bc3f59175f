import Mathlib.Data.List.Basic
import Stepwise.Fault
import Stepwise.FileTree.Calls

/-!
What the file system refuses. An operation on a path with a null character is refused before anything is
looked up; every other refusal is an error of the file system. A question about a path is answered unless
the path, or a name in it, is too long. No operation brings a name with a null character into the tree.
-/

namespace Stepwise

/-- Every fault of a result is one of the file system. -/
def OnlySystem {α : Type} (r : Except Fault α) : Prop := ∀ f, r = .error f → f.isSystem = true

theorem onlySystem_ok {α : Type} (a : α) : OnlySystem (.ok a : Except Fault α) := by
  intro f refused
  cases refused

/-- A text without the null character. -/
def ClearName (s : String) : Prop := s.toList.any (·.toNat == 0) = false

theorem Path.hasNull_eq_false {p : Path} : p.hasNull = false ↔ ∀ name ∈ p.parts, ClearName name := by
  simp only [Path.hasNull, ClearName, List.any_eq_false, Bool.not_eq_true]

theorem Path.child_clear {p : Path} {name : String} (clear : p.hasNull = false) (named : ClearName name) :
    (p.child name).hasNull = false := by
  rw [Path.hasNull_eq_false] at clear ⊢
  intro n hn
  rcases List.mem_append.mp hn with hn | hn
  · exact clear n hn
  · rw [List.mem_singleton.mp hn]
    exact named

theorem Path.parent_clear {p : Path} (clear : p.hasNull = false) : p.parent.hasNull = false := by
  rw [Path.hasNull_eq_false] at clear ⊢
  exact fun n hn => clear n (List.dropLast_subset _ hn)

theorem Path.name_clear {p : Path} (clear : p.hasNull = false) : ClearName p.name := by
  unfold Path.name
  rw [Path.hasNull_eq_false] at clear
  cases last : p.parts.getLast? with
  | none =>
    rw [List.getLastD_eq_getLast?, last]
    rfl
  | some n =>
    rw [List.getLastD_eq_getLast?, last]
    exact clear n (List.mem_of_getLast? last)

/-- The pieces of a text are made of its characters. -/
theorem Text.mem_of_mem_splitAt {sep : Char} {cs piece : List Char} (h : piece ∈ Text.splitAt sep cs) :
    ∀ c ∈ piece, c ∈ cs := by
  induction cs generalizing piece with
  | nil =>
    intro c hc
    rw [List.mem_singleton.mp h] at hc
    exact hc
  | cons d rest ih =>
    intro c hc
    unfold Text.splitAt at h
    by_cases cut : d = sep
    · rw [if_pos cut] at h
      rcases List.mem_cons.mp h with empty | later
      · rw [empty] at hc
        cases hc
      · exact List.mem_cons_of_mem d (ih later c hc)
    · rw [if_neg cut] at h
      cases pieces : Text.splitAt sep rest with
      | nil => exact absurd pieces (Text.splitAt_ne_nil sep rest)
      | cons p ps =>
        rw [pieces] at h
        rcases List.mem_cons.mp h with first | later
        · rw [first] at hc
          rcases List.mem_cons.mp hc with same | inside
          · exact same ▸ List.mem_cons_self
          · exact List.mem_cons_of_mem d (ih (pieces ▸ List.mem_cons_self) c inside)
        · exact List.mem_cons_of_mem d (ih (pieces ▸ List.mem_cons_of_mem p later) c hc)

theorem Path.ofText_clear {s : String} (clear : ClearName s) : (Path.ofText s).hasNull = false := by
  rw [Path.hasNull_eq_false]
  intro name hn
  obtain ⟨piece, kept, rfl⟩ := List.mem_map.mp hn
  have inside := Text.mem_of_mem_splitAt (List.mem_filter.mp kept).1
  unfold ClearName at clear ⊢
  rw [List.any_eq_false] at clear ⊢
  rw [String.toList_ofList]
  exact fun c hc => clear c (inside c hc)

namespace FileTree

variable {t : FileTree} {p q : Path} {follow : Bool}

/-- A tree in which no name and no target of a link holds a null character; no file system has any other. -/
structure Proper (t : FileTree) : Prop where
  names : ∀ e ∈ t.entries, ∀ name ∈ e.1, ClearName name
  targets : ∀ e ∈ t.entries, ∀ target, e.2 = .link target → ClearName target

theorem proper_empty : Proper ⟨[]⟩ where
  names e he := by cases he
  targets e he := by cases he

/-- A part of a tree is as proper as the tree. -/
theorem Proper.of_subset (proper : Proper t) {es : List (Place × Node)} (sub : ∀ e ∈ es, e ∈ t.entries) :
    Proper ⟨es⟩ :=
  ⟨fun e he => proper.names e (sub e he), fun e he => proper.targets e (sub e he)⟩

theorem mem_putEntry {place : Place} {n : Node} {es : List (Place × Node)} {e : Place × Node}
    (h : e ∈ putEntry place n es) : e = (place, n) ∨ e ∈ es := by
  induction es with
  | nil => exact .inl (List.mem_singleton.mp h)
  | cons d es ih =>
    unfold putEntry at h
    by_cases same : d.1 = place
    · rw [if_pos same] at h
      rcases List.mem_cons.mp h with h | h
      · exact .inl h
      · exact .inr (List.mem_cons_of_mem d h)
    · rw [if_neg same] at h
      rcases List.mem_cons.mp h with h | h
      · exact .inr (h ▸ List.mem_cons_self)
      · exact (ih h).imp_right (List.mem_cons_of_mem d)

theorem Proper.put (proper : Proper t) {place : Place} {n : Node} (clear : ∀ name ∈ place, ClearName name)
    (target : ∀ s, n = .link s → ClearName s) : Proper (t.put place n) := by
  refine ⟨fun e he => ?_, fun e he => ?_⟩ <;> rcases mem_putEntry he with rfl | he
  · exact clear
  · exact proper.names e he
  · exact target
  · exact proper.targets e he

theorem Proper.erase (proper : Proper t) (place : Place) : Proper (t.erase place) :=
  proper.of_subset fun _ he => (List.mem_filter.mp he).1

theorem Proper.eraseInside (proper : Proper t) (place : Place) : Proper (t.eraseInside place) :=
  proper.of_subset fun _ he => (List.mem_filter.mp he).1

/-- A node that is moved to a clear place takes clear names along. -/
theorem Proper.move (proper : Proper t) (old : Place) {new : Place}
    (clear : ∀ name ∈ new, ClearName name) : Proper (t.move old new) := by
  refine ⟨fun e he => ?_, fun e he => ?_⟩
  · obtain ⟨d, kept, rfl⟩ := List.mem_map.mp he
    have inside := (List.mem_filter.mp kept).1
    by_cases moved : old.isPrefixOf d.1 = true
    · rw [if_pos moved]
      intro name hn
      rcases List.mem_append.mp hn with hn | hn
      · exact clear name hn
      · exact proper.names d inside name (List.mem_of_mem_drop hn)
    · rw [if_neg moved]
      exact proper.names d inside
  · obtain ⟨d, kept, rfl⟩ := List.mem_map.mp he
    have inside := (List.mem_filter.mp kept).1
    by_cases moved : old.isPrefixOf d.1 = true
    · rw [if_pos moved]
      exact proper.targets d inside
    · rw [if_neg moved]
      exact proper.targets d inside

theorem Proper.of_find? (proper : Proper t) {place : Place} {target : String}
    (found : t.find? place = some (.link target)) : ClearName target := by
  unfold find? at found
  by_cases root : place.isEmpty = true
  · rw [if_pos root] at found
    cases found
  · rw [if_neg root] at found
    obtain ⟨e, he, same⟩ := Option.map_eq_some_iff.mp found
    exact proper.targets e (List.mem_of_find?_eq_some he) target same

theorem Proper.of_names (proper : Proper t) {place : Place} : ∀ name ∈ t.names place, ClearName name := by
  intro name hn
  obtain ⟨e, he, last⟩ := List.mem_filterMap.mp hn
  split at last
  · exact proper.names e he name (List.mem_of_getLast? last)
  · cases last

/-- The errors with which a path can lead nowhere. -/
def IsDeadEnd (e : Errno) : Prop :=
  e = .nameTooLong ∨ e = .noEntry ∨ e = .notDirectory ∨ e = .loop

/-- One walk along names ends in one of these errors if the walks after links do. -/
theorem isDeadEnd_of_walkFrom {onward : Onward}
    (after : ∀ here names e, onward here names = .error e → IsDeadEnd e) {names : List String}
    {here : Place} {e : Errno} (h : walkFrom t follow onward here names = .error e) : IsDeadEnd e := by
  fun_induction walkFrom t follow onward here names with
  | case1 => cases h
  | case2 here rest ih => exact ih h
  | case3 here rest _ ih => exact ih h
  | case4 =>
    cases h
    exact .inl rfl
  | case5 => cases h
  | case6 =>
    cases h
    exact .inr (.inl rfl)
  | case7 here name rest _ _ _ _ ih => exact ih h
  | case8 => cases h
  | case9 =>
    cases h
    exact .inr (.inr (.inl rfl))
  | case10 => cases h
  | case11 =>
    cases h
    exact .inr (.inl rfl)
  | case12 => exact after _ _ _ h

theorem isDeadEnd_of_walk {n : ℕ} {here : Place} {names : List String} {e : Errno}
    (h : walk t follow n here names = .error e) : IsDeadEnd e := by
  induction n generalizing here names e with
  | zero =>
    refine isDeadEnd_of_walkFrom (fun _ _ e looped => ?_) h
    cases looped
    exact .inr (.inr (.inr rfl))
  | succ n ih => exact isDeadEnd_of_walkFrom (fun _ _ _ failed => ih failed) h

theorem isDeadEnd_of_locate {e : Errno} (h : t.locate follow p = .error e) : IsDeadEnd e := by
  unfold locate at h
  by_cases long : longestPath < byteLength p.text
  · rw [if_pos long] at h
    cases h
    exact .inl rfl
  · rw [if_neg long] at h
    exact isDeadEnd_of_walk h

/-- A place with clear names and, if a link is there, a clear target. -/
structure ClearSpot (s : Spot) : Prop where
  place : ∀ n ∈ s.place, ClearName n
  target : ∀ target, s.node = some (.link target) → ClearName target

theorem clear_append_singleton {here : Place} {name : String} {rest : List String}
    (from_clear : ∀ n ∈ here, ClearName n) (clear : ∀ n ∈ name :: rest, ClearName n) :
    ∀ n ∈ here ++ [name], ClearName n := by
  intro n hn
  rcases List.mem_append.mp hn with hn | hn
  · exact from_clear n hn
  · exact clear n (List.mem_singleton.mp hn ▸ List.mem_cons_self)

/-- A walk along clear names comes to a clear spot, if the walks after links do. -/
theorem clearSpot_of_walkFrom (proper : Proper t) {onward : Onward}
    (after : ∀ here names s, (∀ n ∈ here, ClearName n) → (∀ n ∈ names, ClearName n) →
      onward here names = .ok s → ClearSpot s)
    {names : List String} {here : Place} {s : Spot} (from_clear : ∀ n ∈ here, ClearName n)
    (clear : ∀ n ∈ names, ClearName n) (h : walkFrom t follow onward here names = .ok s) :
    ClearSpot s := by
  fun_induction walkFrom t follow onward here names with
  | case1 =>
    cases h
    exact ⟨from_clear, fun _ no => by cases no⟩
  | case2 here rest ih => exact ih from_clear (fun n hn => clear n (List.mem_cons_of_mem _ hn)) h
  | case3 here rest _ ih =>
    exact ih (fun n hn => from_clear n (List.dropLast_subset _ hn))
      (fun n hn => clear n (List.mem_cons_of_mem _ hn)) h
  | case4 => cases h
  | case5 =>
    cases h
    exact ⟨clear_append_singleton from_clear clear, fun _ no => by cases no⟩
  | case6 => cases h
  | case7 here name rest _ _ _ _ ih =>
    exact ih (clear_append_singleton from_clear clear) (fun n hn => clear n (List.mem_cons_of_mem _ hn)) h
  | case8 =>
    cases h
    exact ⟨clear_append_singleton from_clear clear, fun _ no => by cases no⟩
  | case9 => cases h
  | case10 here name rest _ _ _ target found =>
    cases h
    refine ⟨clear_append_singleton from_clear clear, fun goal same => ?_⟩
    cases same
    exact proper.of_find? found
  | case11 => cases h
  | case12 here name rest _ _ _ target found _ _ goal =>
    have goal_clear := Path.hasNull_eq_false.mp (Path.ofText_clear (proper.of_find? found))
    refine after _ _ s ?_ ?_ h
    · split
      · exact from_clear
      · exact fun n hn => by cases hn
    · intro n hn
      rcases List.mem_append.mp hn with hn | hn
      · exact goal_clear n hn
      · exact clear n (List.mem_cons_of_mem _ hn)

theorem clearSpot_of_walk (proper : Proper t) {n : ℕ} {here : Place} {names : List String} {s : Spot}
    (from_clear : ∀ m ∈ here, ClearName m) (clear : ∀ m ∈ names, ClearName m)
    (h : walk t follow n here names = .ok s) : ClearSpot s := by
  induction n generalizing here names s with
  | zero => exact clearSpot_of_walkFrom proper (fun _ _ _ _ _ looped => by cases looped) from_clear clear h
  | succ n ih =>
    exact clearSpot_of_walkFrom proper (fun _ _ _ hh hn found => ih hh hn found) from_clear clear h

theorem clearSpot_of_locate (proper : Proper t) (clear : p.hasNull = false) {s : Spot}
    (h : t.locate follow p = .ok s) : ClearSpot s := by
  unfold locate at h
  by_cases long : longestPath < byteLength p.text
  · rw [if_pos long] at h
    cases h
  · rw [if_neg long] at h
    exact clearSpot_of_walk proper (fun _ hm => by cases hm) (Path.hasNull_eq_false.mp clear) h

theorem onlySystem_refuse {α : Type} (e : Errno) (paths : List Path) :
    OnlySystem (refuse e paths : Except Fault α) := by
  intro f refused
  cases refused
  rfl

/-- A path that leads somewhere holds no null character. -/
theorem clear_of_spot {s : Spot} (h : t.spot follow p = .ok s) :
    p.hasNull = false ∧ t.locate follow p = .ok s := by
  unfold spot at h
  by_cases null : p.hasNull = true
  · rw [if_pos null] at h
    cases h
  · rw [if_neg null] at h
    refine ⟨Bool.not_eq_true _ ▸ null, ?_⟩
    cases found : t.locate follow p with
    | ok place =>
      rw [found] at h
      cases h
      rfl
    | error e =>
      rw [found] at h
      cases h

theorem spot_of_null (null : p.hasNull = true) : t.spot follow p = .error nullByte := if_pos null

theorem onlySystem_spot (clear : p.hasNull = false) : OnlySystem (t.spot follow p) := by
  intro f refused
  unfold spot at refused
  rw [clear] at refused
  cases found : t.locate follow p with
  | ok s =>
    rw [found] at refused
    cases refused
  | error e =>
    rw [found] at refused
    exact onlySystem_refuse _ _ f refused

theorem Proper.of_spot (proper : Proper t) {s : Spot} (h : t.spot follow p = .ok s) : ClearSpot s :=
  clearSpot_of_locate proper (clear_of_spot h).1 (clear_of_spot h).2

/-- What looks a path up first is refused with it. -/
theorem onlySystem_of_spot {α : Type} {k : Spot → Except Fault α} (clear : p.hasNull = false)
    (after : ∀ s, OnlySystem (k s)) :
    OnlySystem (match t.spot follow p with
      | .error f => .error f
      | .ok s => k s) := by
  intro f refused
  cases found : t.spot follow p with
  | error g =>
    rw [found] at refused
    have same : g = f := Except.error.inj refused
    exact same ▸ onlySystem_spot clear g found
  | ok s =>
    rw [found] at refused
    exact after s f refused

theorem status_of_null (null : p.hasNull = true) : t.status follow p = .error nullByte := by
  unfold status
  rw [spot_of_null null]

theorem onlySystem_status (clear : p.hasNull = false) : OnlySystem (t.status follow p) := by
  refine onlySystem_of_spot clear fun s => ?_
  cases s.node with
  | some n => exact onlySystem_ok n
  | none => exact onlySystem_refuse _ _

/-- A link that stands in a proper tree has a clear target. -/
theorem Proper.of_status (proper : Proper t) {target : String}
    (h : t.status follow p = .ok (.link target)) : ClearName target := by
  unfold status at h
  cases found : t.spot follow p with
  | error f =>
    rw [found] at h
    cases h
  | ok s =>
    rw [found] at h
    cases node : s.node with
    | none =>
      simp only [node, refuse, reduceCtorEq] at h
    | some n =>
      simp only [node, Except.ok.injEq] at h
      exact (proper.of_spot found).target target (h ▸ node)

/-- A question about a path that is too long, or that leads along a name that is too long, goes
unanswered. -/
def TooLong (t : FileTree) (p : Path) (f : Fault) : Prop :=
  p.hasNull = false ∧ t.locate true p = .error .nameTooLong ∧ f = .system ⟨.nameTooLong, [p.text]⟩

theorem question_of_null {ask : Node → Bool} (null : p.hasNull = true) : t.question p ask = .ok false := by
  unfold question
  rw [status_of_null null]
  rfl

theorem status_of_locate_error {e : Errno} (clear : p.hasNull = false) (h : t.locate follow p = .error e) :
    t.status follow p = .error (.system ⟨e, [p.text]⟩) := by
  have lost : t.spot follow p = .error (.system ⟨e, [p.text]⟩) := by
    unfold spot
    rw [clear, h]
    rfl
  unfold status
  rw [lost]

/-- Absence answers a question with no, and so does every dead end but a name that is too long. -/
theorem question_error {ask : Node → Bool} {f : Fault} : t.question p ask = .error f ↔ TooLong t p f := by
  cases null : p.hasNull with
  | true =>
    rw [question_of_null null]
    constructor
    · intro h
      cases h
    · intro long
      rw [long.1] at null
      cases null
  | false =>
    cases found : t.locate true p with
    | ok s =>
      have here : t.spot true p = .ok s := by
        unfold spot
        rw [null, found]
        rfl
      constructor
      · intro h
        unfold question status at h
        rw [here] at h
        cases node : s.node with
        | some n =>
          simp only [node] at h
          cases h
        | none =>
          simp only [node] at h
          cases h
      · intro long
        have no := long.2.1
        rw [found] at no
        cases no
    | error e =>
      have refused := status_of_locate_error null found
      unfold question
      rw [refused]
      rcases isDeadEnd_of_locate found with rfl | rfl | rfl | rfl
      · constructor
        · intro h
          exact ⟨null, found, (Except.error.inj h).symm⟩
        · intro long
          rw [long.2.2]
          rfl
      all_goals
        constructor
        · intro h
          cases h
        · intro long
          have no := long.2.1
          rw [found] at no
          cases no

theorem clear_of_question {ask : Node → Bool} (h : t.question p ask = .ok true) : p.hasNull = false := by
  cases null : p.hasNull with
  | false => rfl
  | true =>
    rw [question_of_null null] at h
    cases h

section Operations

variable {change : List UInt8 → List UInt8} {target : String} {t' : FileTree}

theorem makeDirectory_of_null (null : p.hasNull = true) : t.makeDirectory p = .error nullByte := by
  unfold makeDirectory
  rw [spot_of_null null]

theorem onlySystem_makeDirectory (clear : p.hasNull = false) : OnlySystem (t.makeDirectory p) := by
  refine onlySystem_of_spot clear fun s => ?_
  split
  · exact onlySystem_refuse _ _
  · exact onlySystem_ok _

theorem writeFile_of_null (null : p.hasNull = true) : t.writeFile p change = .error nullByte := by
  unfold writeFile
  rw [spot_of_null null]

theorem onlySystem_writeFile (clear : p.hasNull = false) : OnlySystem (t.writeFile p change) := by
  refine onlySystem_of_spot clear fun s => ?_
  split
  · exact onlySystem_refuse _ _
  · exact onlySystem_ok _
  · exact onlySystem_ok _

theorem onlySystem_readFile (clear : p.hasNull = false) : OnlySystem (t.readFile p) := by
  intro f refused
  unfold readFile at refused
  cases found : t.status true p with
  | error g =>
    rw [found] at refused
    have same : g = f := Except.error.inj refused
    exact same ▸ onlySystem_status clear g found
  | ok n =>
    rw [found] at refused
    cases n with
    | file bytes => cases refused
    | directory => exact onlySystem_refuse _ _ f refused
    | link goal => exact onlySystem_refuse _ _ f refused

theorem removeFile_of_null (null : p.hasNull = true) : t.removeFile p = .error nullByte := by
  unfold removeFile
  rw [spot_of_null null]

theorem onlySystem_removeFile (clear : p.hasNull = false) : OnlySystem (t.removeFile p) := by
  refine onlySystem_of_spot clear fun s => ?_
  split
  · exact onlySystem_refuse _ _
  · exact onlySystem_refuse _ _
  · exact onlySystem_ok _

theorem onlySystem_removeDirectory (clear : p.hasNull = false) : OnlySystem (t.removeDirectory p) := by
  refine onlySystem_of_spot clear fun s => ?_
  split
  · exact onlySystem_refuse _ _
  · split
    · exact onlySystem_refuse _ _
    · split
      · exact onlySystem_refuse _ _
      · exact onlySystem_ok _
  · exact onlySystem_refuse _ _

theorem onlySystem_list (clear : p.hasNull = false) : OnlySystem (t.list p) := by
  refine onlySystem_of_spot clear fun s => ?_
  split
  · exact onlySystem_ok _
  · exact onlySystem_refuse _ _
  · exact onlySystem_refuse _ _

theorem onlySystem_makeLink (clear : p.hasNull = false) : OnlySystem (t.makeLink target p) := by
  refine onlySystem_of_spot clear fun s => ?_
  split
  · exact onlySystem_refuse _ _
  · exact onlySystem_ok _

theorem rename_of_null (null : q.hasNull = true) : t.rename p q = .error nullByte := by
  unfold rename
  rw [null, Bool.or_true]
  rfl

theorem onlySystem_rename (clear : p.hasNull = false) (clear' : q.hasNull = false) :
    OnlySystem (t.rename p q) := by
  unfold rename
  rw [clear, clear']
  simp only [Bool.or_self, Bool.false_eq_true, if_false]
  split
  · exact onlySystem_refuse _ _
  · exact onlySystem_refuse _ _
  · split
    · exact onlySystem_refuse _ _
    · split
      · exact onlySystem_refuse _ _
      · split
        · exact onlySystem_ok _
        · exact onlySystem_ok _

/-- What is done where a path leads to keeps a tree proper if each such deed does. -/
theorem proper_of_spot {k : Spot → Except Fault FileTree} (proper : Proper t)
    (after : ∀ s, ClearSpot s → k s = .ok t' → Proper t')
    (h : (match t.spot follow p with
      | .error f => (.error f : Except Fault FileTree)
      | .ok s => k s) = .ok t') : Proper t' := by
  cases found : t.spot follow p with
  | error f =>
    rw [found] at h
    cases h
  | ok s =>
    rw [found] at h
    exact after s (proper.of_spot found) h

theorem Proper.makeDirectory (proper : Proper t) (h : t.makeDirectory p = .ok t') : Proper t' := by
  refine proper_of_spot proper (fun s clear made => ?_) h
  split at made
  · cases made
  · cases made
    exact proper.put clear.place fun _ no => by cases no

theorem Proper.writeFile (proper : Proper t) (h : t.writeFile p change = .ok t') : Proper t' := by
  refine proper_of_spot proper (fun s clear made => ?_) h
  split at made
  · cases made
  · cases made
    exact proper.put clear.place fun _ no => by cases no
  · cases made
    exact proper.put clear.place fun _ no => by cases no

theorem Proper.removeFile (proper : Proper t) (h : t.removeFile p = .ok t') : Proper t' := by
  refine proper_of_spot proper (fun s _ made => ?_) h
  split at made
  · cases made
  · cases made
  · cases made
    exact proper.erase _

theorem Proper.removeDirectory (proper : Proper t) (h : t.removeDirectory p = .ok t') : Proper t' := by
  refine proper_of_spot proper (fun s _ made => ?_) h
  split at made
  · cases made
  · split at made
    · cases made
    · split at made
      · cases made
      · cases made
        exact proper.erase _
  · cases made

theorem Proper.makeLink (proper : Proper t) (goal : ClearName target) (h : t.makeLink target p = .ok t') :
    Proper t' := by
  refine proper_of_spot proper (fun s clear made => ?_) h
  split at made
  · cases made
  · cases made
    refine proper.put clear.place fun s same => ?_
    cases same
    exact goal

theorem Proper.rename (proper : Proper t) (h : t.rename p q = .ok t') : Proper t' := by
  unfold FileTree.rename at h
  by_cases null : (p.hasNull || q.hasNull) = true
  · rw [if_pos null] at h
    cases h
  · rw [if_neg null] at h
    have clear : q.hasNull = false := by
      simp only [Bool.or_eq_true, not_or, Bool.not_eq_true] at null
      exact null.2
    split at h
    · cases h
    · cases h
    · next old new _ found =>
      split at h
      · cases h
      · split at h
        · cases h
        · split at h
          · cases h
            exact proper
          · cases h
            exact proper.move _ (clearSpot_of_locate proper clear found).place

end Operations

end FileTree

end Stepwise
