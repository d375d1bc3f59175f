import Mathlib.Data.List.Basic
import Stepwise.Proofs.FileCalls

/-!
What is written to a file is what is read from it. A text that was written, with the texts that were added to it,
makes up the bytes of the file, and reading gives it back with all its line ends as line feeds. A path leads to the
same file all the time, since writing and making directories leave every directory and every link where it was.
-/

namespace Stepwise

namespace FileTree

variable {t t' t'' : FileTree} {follow : Bool} {onward onward' : Onward} {here : Place} {names : List String}
variable {s : Spot} {p : Path}

/-- The second tree has every directory and every link of the first one where it was. -/
structure Retains (t t' : FileTree) : Prop where
  directories : ∀ place, t.find? place = some .directory → t'.find? place = some .directory
  links : ∀ place target, t.find? place = some (.link target) → t'.find? place = some (.link target)

theorem Retains.refl (t : FileTree) : Retains t t := ⟨fun _ h => h, fun _ _ h => h⟩

theorem Retains.trans (h : Retains t t') (h' : Retains t' t'') : Retains t t'' :=
  ⟨fun place found => h'.directories place (h.directories place found),
    fun place target found => h'.links place target (h.links place target found)⟩

theorem find?_put_of_ne {place q : Place} {n : Node} (apart : q ≠ place) : (t.put place n).find? q = t.find? q := by
  cases q with
  | nil => rw [find?_root, find?_root]
  | cons name q => rw [find?_put t place (name :: q) n (List.cons_ne_nil name q), if_neg (Ne.symm apart)]

/-- A node that is put in place of a file, or where there was nothing, takes no directory and no link away. -/
theorem retains_put {place : Place} (directory : t.find? place ≠ some .directory)
    (link : ∀ target, t.find? place ≠ some (.link target)) (n : Node) : Retains t (t.put place n) := by
  refine ⟨fun q found => ?_, fun q target found => ?_⟩
  · rw [find?_put_of_ne, found]
    rintro rfl
    exact directory found
  · rw [find?_put_of_ne, found]
    rintro rfl
    exact link target found

theorem find?_put_self {place : Place} (directory : t.find? place ≠ some .directory) (n : Node) :
    (t.put place n).find? place = some n := by
  have below : place ≠ [] := by
    rintro rfl
    exact directory (find?_root t)
  rw [find?_put t place place n below, if_pos rfl]

/-! Where a walk comes to an end. -/

/-- A walk ends in a directory, or where the tree has what it found; if links are followed, this is no link. -/
def Ends (t : FileTree) (follow : Bool) (s : Spot) : Prop :=
  s.node = some .directory ∨
    s.node ≠ some .directory ∧ t.find? s.place = s.node ∧
      (follow = true → ∀ target, s.node ≠ some (.link target))

theorem ends_of_walkFrom (after : ∀ here names s, onward here names = .ok s → Ends t follow s)
    (h : walkFrom t follow onward here names = .ok s) : Ends t follow s := by
  fun_induction walkFrom t follow onward here names with
  | case1 =>
    cases h
    exact .inl rfl
  | case2 here rest ih => exact ih h
  | case3 here rest _ ih => exact ih h
  | case4 => cases h
  | case5 here name rest _ _ _ found _ =>
    cases h
    exact .inr ⟨by simp, found, fun _ _ => by simp⟩
  | case6 => cases h
  | case7 here name rest _ _ _ _ ih => exact ih h
  | case8 here name rest _ _ _ bytes found _ =>
    cases h
    exact .inr ⟨by simp, found, fun _ _ => by simp⟩
  | case9 => cases h
  | case10 here name rest _ _ _ target found last =>
    cases h
    refine .inr ⟨by simp, found, fun follows => ?_⟩
    rw [follows] at last
    simp at last
  | case11 => cases h
  | case12 => exact after _ _ _ h

theorem ends_of_walk {n : ℕ} (h : walk t follow n here names = .ok s) : Ends t follow s := by
  induction n generalizing here names s with
  | zero => exact ends_of_walkFrom (fun _ _ _ looped => by cases looped) h
  | succ n ih => exact ends_of_walkFrom (fun _ _ _ found => ih found) h

theorem locate_ok (h : t.locate follow p = .ok s) :
    ¬ longestPath < byteLength p.text ∧ walk t follow linkLimit [] p.parts = .ok s := by
  unfold locate at h
  by_cases long : longestPath < byteLength p.text
  · rw [if_pos long] at h
    cases h
  · rw [if_neg long] at h
    exact ⟨long, h⟩

/-! The same walk in a later tree. -/

/-- What is found in a later tree where a walk came to an end; what it found as a directory still is one. -/
def Spot.later (t' : FileTree) (s : Spot) : Spot :=
  ⟨s.place, if s.node = some .directory then some .directory else t'.find? s.place⟩

/-- The later tree has no link there. -/
def Solid (t' : FileTree) (s : Spot) : Prop :=
  s.node = some .directory ∨ ∀ target, t'.find? s.place ≠ some (.link target)

/-- The last step of a walk that follows links, to what is no link. -/
theorem walkFrom_last {name : String} (dot : name ≠ ".") (dots : name ≠ "..")
    (short : ¬ longestName < byteLength name) (link : ∀ target, t.find? (here ++ [name]) ≠ some (.link target)) :
    walkFrom t true onward here [name] = .ok ⟨here ++ [name], t.find? (here ++ [name])⟩ := by
  rw [walkFrom, if_neg dot, if_neg dots, if_neg short]
  cases found : t.find? (here ++ [name]) with
  | none => rfl
  | some node =>
    cases node with
    | directory => rfl
    | file bytes => rfl
    | link target => exact absurd found (link target)

theorem walkFrom_later (retains : Retains t t')
    (after : ∀ here names s, onward here names = .ok s → Solid t' s → onward' here names = .ok (s.later t'))
    (h : walkFrom t true onward here names = .ok s) (solid : Solid t' s) :
    walkFrom t' true onward' here names = .ok (s.later t') := by
  fun_induction walkFrom t true onward here names with
  | case1 =>
    cases h
    rfl
  | case2 here rest ih =>
    rw [walkFrom, if_pos rfl]
    exact ih h
  | case3 here rest dot ih =>
    rw [walkFrom, if_neg dot, if_pos rfl]
    exact ih h
  | case4 => cases h
  | case5 here name rest dot dots short found last =>
    cases h
    obtain rfl := List.isEmpty_iff.mp last
    exact walkFrom_last dot dots short (solid.resolve_left (by simp))
  | case6 => cases h
  | case7 here name rest dot dots short found ih =>
    rw [walkFrom, if_neg dot, if_neg dots, if_neg short, retains.directories _ found]
    exact ih h
  | case8 here name rest dot dots short bytes found last =>
    cases h
    obtain rfl := List.isEmpty_iff.mp last
    exact walkFrom_last dot dots short (solid.resolve_left (by simp))
  | case9 => cases h
  | case10 here name rest dot dots short target found last => simp at last
  | case11 => cases h
  | case12 here name rest dot dots short target found last some goal =>
    rw [walkFrom, if_neg dot, if_neg dots, if_neg short, retains.links _ _ found]
    simp only [last, some]
    exact after _ _ _ h solid

theorem walk_later (retains : Retains t t') {n : ℕ} (h : walk t true n here names = .ok s) (solid : Solid t' s) :
    walk t' true n here names = .ok (s.later t') := by
  induction n generalizing here names s with
  | zero => exact walkFrom_later retains (fun _ _ _ looped => by cases looped) h solid
  | succ n ih => exact walkFrom_later retains (fun _ _ _ found solid => ih found solid) h solid

/-- A path leads to the same place in a later tree that retains the directories and links. -/
theorem spot_later (retains : Retains t t') (h : t.spot true p = .ok s) (solid : Solid t' s) :
    t'.spot true p = .ok (s.later t') := by
  obtain ⟨clear, found⟩ := clear_of_spot h
  obtain ⟨short, walked⟩ := locate_ok found
  have again : t'.locate true p = .ok (s.later t') := by
    rw [locate, if_neg short]
    exact walk_later retains walked solid
  rw [spot, clear, again]
  rfl

theorem ends_of_spot (h : t.spot follow p = .ok s) : Ends t follow s :=
  ends_of_walk (locate_ok (clear_of_spot h).2).2

/-! Walks that are told whether to follow a link at the end. -/

/-- A walk that does not end in a link is the same whether it would follow one there or not. -/
theorem walkFrom_follow (after : ∀ here names s, onward here names = .ok s → (∀ target, s.node ≠ some (.link target)) →
      onward' here names = .ok s)
    (h : walkFrom t false onward here names = .ok s) (link : ∀ target, s.node ≠ some (.link target)) :
    walkFrom t true onward' here names = .ok s := by
  fun_induction walkFrom t false onward here names with
  | case1 => exact h
  | case2 here rest ih =>
    rw [walkFrom, if_pos rfl]
    exact ih h
  | case3 here rest dot ih =>
    rw [walkFrom, if_neg dot, if_pos rfl]
    exact ih h
  | case4 => cases h
  | case5 here name rest dot dots short found last =>
    rw [walkFrom, if_neg dot, if_neg dots, if_neg short, found]
    exact (if_pos last).trans h
  | case6 => cases h
  | case7 here name rest dot dots short found ih =>
    rw [walkFrom, if_neg dot, if_neg dots, if_neg short, found]
    exact ih h
  | case8 here name rest dot dots short bytes found last =>
    rw [walkFrom, if_neg dot, if_neg dots, if_neg short, found]
    exact (if_pos last).trans h
  | case9 => cases h
  | case10 here name rest dot dots short target found last =>
    cases h
    exact absurd rfl (link target)
  | case11 => cases h
  | case12 here name names dot dots short target found last full goal =>
    rw [walkFrom, if_neg dot, if_neg dots, if_neg short, found]
    simp only [Bool.not_true, Bool.and_false, full]
    exact after _ _ _ h link

theorem walk_follow {n : ℕ} (h : walk t false n here names = .ok s) (link : ∀ target, s.node ≠ some (.link target)) :
    walk t true n here names = .ok s := by
  induction n generalizing here names s with
  | zero => exact walkFrom_follow (fun _ _ _ looped => by cases looped) h link
  | succ n ih => exact walkFrom_follow (fun _ _ _ found link => ih found link) h link

theorem spot_follow (h : t.spot false p = .ok s) (link : ∀ target, s.node ≠ some (.link target)) :
    t.spot true p = .ok s := by
  obtain ⟨clear, found⟩ := clear_of_spot h
  obtain ⟨short, walked⟩ := locate_ok found
  have again : t.locate true p = .ok s := by
    rw [locate, if_neg short]
    exact walk_follow walked link
  rw [spot, clear, again]
  rfl

/-- A walk that ends anywhere also ends if a link at the end is not followed. -/
theorem walkFrom_unfollow (after : ∀ here names s, onward here names = .ok s → ∃ s', onward' here names = .ok s')
    (h : walkFrom t true onward here names = .ok s) : ∃ s', walkFrom t false onward' here names = .ok s' := by
  fun_induction walkFrom t true onward here names with
  | case1 => exact ⟨_, rfl⟩
  | case2 here rest ih =>
    rw [walkFrom, if_pos rfl]
    exact ih h
  | case3 here rest dot ih =>
    rw [walkFrom, if_neg dot, if_pos rfl]
    exact ih h
  | case4 => cases h
  | case5 here name rest dot dots short found last =>
    rw [walkFrom, if_neg dot, if_neg dots, if_neg short, found]
    exact ⟨_, if_pos last⟩
  | case6 => cases h
  | case7 here name rest dot dots short found ih =>
    rw [walkFrom, if_neg dot, if_neg dots, if_neg short, found]
    exact ih h
  | case8 here name rest dot dots short bytes found last =>
    rw [walkFrom, if_neg dot, if_neg dots, if_neg short, found]
    exact ⟨_, if_pos last⟩
  | case9 => cases h
  | case10 here name rest dot dots short target found last => simp at last
  | case11 => cases h
  | case12 here name rest dot dots short target found last full goal =>
    rw [walkFrom, if_neg dot, if_neg dots, if_neg short, found]
    cases ended : rest.isEmpty with
    | true => exact ⟨_, rfl⟩
    | false =>
      simp only [Bool.not_false, Bool.and_true, Bool.false_eq_true, full, if_false]
      exact after _ _ _ h

theorem walk_unfollow {n : ℕ} (h : walk t true n here names = .ok s) : ∃ s', walk t false n here names = .ok s' := by
  induction n generalizing here names s with
  | zero => exact walkFrom_unfollow (fun _ _ _ looped => by cases looped) h
  | succ n ih => exact walkFrom_unfollow (fun _ _ _ found => ih found) h

theorem spot_unfollow (h : t.spot true p = .ok s) : ∃ s', t.spot false p = .ok s' := by
  obtain ⟨clear, found⟩ := clear_of_spot h
  obtain ⟨short, walked⟩ := locate_ok found
  obtain ⟨s', again⟩ := walk_unfollow walked
  refine ⟨s', ?_⟩
  rw [spot, clear, locate, if_neg short, again]
  rfl

/-! Operations. -/

theorem status_of_spot {place : Place} {n : Node} (h : t.spot follow p = .ok ⟨place, some n⟩) :
    t.status follow p = .ok n := by
  unfold status
  rw [h]

theorem spot_of_status {n : Node} (h : t.status follow p = .ok n) :
    ∃ place, t.spot follow p = .ok ⟨place, some n⟩ := by
  unfold status at h
  rcases found : t.spot follow p with f | ⟨place, _ | n'⟩
  · rw [found] at h
    cases h
  · rw [found] at h
    cases h
  · rw [found] at h
    cases h
    exact ⟨place, rfl⟩

theorem present_of_spot {place : Place} {n : Node} (h : t.spot true p = .ok ⟨place, some n⟩) :
    t.present p = .ok true := by
  unfold present question
  rw [status_of_spot h]

/-- A path at which a directory is found leads to a directory. -/
theorem spot_of_isDirectory (h : t.isDirectory p = .ok true) :
    ∃ s, t.spot true p = .ok s ∧ s.node = some .directory := by
  unfold isDirectory question status at h
  cases found : t.spot true p with
  | error f =>
    rw [found] at h
    simp only at h
    split at h
    · next no => cases no
    · split at h <;> cases h
    · split at h <;> cases h
  | ok s =>
    rw [found] at h
    refine ⟨s, rfl, ?_⟩
    cases node : s.node with
    | none =>
      simp only [node, refuse] at h
      cases h
    | some n =>
      simp only [node, Except.ok.injEq, beq_iff_eq] at h
      rw [h]

/-- A directory that is asked for and is there is still there. -/
theorem isDirectory_later (retains : Retains t t') (h : t.isDirectory p = .ok true) :
    t'.isDirectory p = .ok true := by
  obtain ⟨s, found, directory⟩ := spot_of_isDirectory h
  have again := spot_later retains found (.inl directory)
  unfold isDirectory question status
  rw [again, Spot.later, if_pos directory]
  rfl

theorem retains_makeDirectory (h : t.makeDirectory p = .ok t') : Retains t t' := by
  unfold makeDirectory at h
  cases found : t.spot false p with
  | error f =>
    rw [found] at h
    cases h
  | ok s =>
    rw [found] at h
    cases node : s.node with
    | some n =>
      simp only [node, Option.isSome_some, if_true, refuse] at h
      cases h
    | none =>
      simp only [node, Option.isSome_none, Bool.false_eq_true, if_false] at h
      cases h
      have free : t.find? s.place = none := by
        rcases ends_of_spot found with directory | ⟨-, same, -⟩
        · rw [node] at directory
          cases directory
        · rw [same, node]
      exact retains_put (by simp [free]) (by simp [free]) _

/-- What is read at a path that leads to a file. -/
theorem readFile_of_spot {bytes : List UInt8} (h : t.spot true p = .ok ⟨s.place, some (.file bytes)⟩) :
    t.readFile p = .ok bytes := by
  unfold readFile status
  rw [h]

/-- Writing to a file leaves what was written in it, made from what was there before. -/
theorem readFile_of_writeFile {change : List UInt8 → List UInt8} (h : t.writeFile p change = .ok t') :
    Retains t t' ∧ ∃ old, t'.readFile p = .ok (change old) ∧ ∀ bytes, t.readFile p = .ok bytes → old = bytes := by
  unfold writeFile at h
  cases found : t.spot true p with
  | error f =>
    rw [found] at h
    cases h
  | ok s =>
    rw [found] at h
    have directory : s.node ≠ some .directory := by
      intro directory
      simp only [directory, refuse] at h
      cases h
    obtain ⟨-, same, link⟩ := (ends_of_spot found).resolve_left directory
    rw [← same] at directory link
    -- Whatever is written, the path leads to it afterwards.
    have written (bytes : List UInt8) : Retains t (t.put s.place (.file bytes)) ∧
        (t.put s.place (.file bytes)).readFile p = .ok bytes := by
      have retains := retains_put directory (link rfl) (.file bytes)
      have now := find?_put_self directory (.file bytes)
      have again := spot_later retains found (.inr fun target => by simp [now])
      rw [Spot.later, ← same, if_neg directory, now] at again
      exact ⟨retains, readFile_of_spot again⟩
    cases node : s.node with
    | none =>
      simp only [node, Except.ok.injEq] at h
      subst h
      refine ⟨(written _).1, [], (written _).2, fun bytes read => ?_⟩
      unfold readFile status at read
      simp only [found, node, refuse] at read
      cases read
    | some n =>
      cases n with
      | directory => exact absurd (same.trans node) directory
      | link target => exact absurd (same.trans node) (link rfl target)
      | file bytes =>
        simp only [node, Except.ok.injEq] at h
        subst h
        refine ⟨(written _).1, bytes, (written _).2, fun bytes' read => ?_⟩
        unfold readFile status at read
        simp only [found, node, Except.ok.injEq] at read
        exact read

/-- A file that can be read is there. -/
theorem present_of_readFile {bytes : List UInt8} (h : t.readFile p = .ok bytes) : t.present p = .ok true := by
  unfold readFile at h
  unfold present question
  cases found : t.status true p with
  | ok n => rfl
  | error f =>
    rw [found] at h
    cases h

end FileTree

namespace Files

open Act FileTree

variable {α β : Type} {site : Site} {t t' : FileTree} {p q : Path} {path : Value}

/-! Work that leaves directories and links alone, however it ends. -/

/-- The work retains the directories and links of every tree. -/
def Retaining (m : FileAct α) : Prop := ∀ t, Retains t (m t).world

theorem Retaining.of_gives {m : FileAct α} {a : α} (retaining : Retaining m) (given : Gives m t a t') :
    Retains t t' := given.2 ▸ retaining t

theorem retaining_bind {m : FileAct α} {k : α → FileAct β} (first : Retaining m)
    (after : ∀ a, Retaining (k a)) : Retaining (m >>= k) := by
  intro t
  rw [bind_apply]
  have begun := first t
  rcases outcome : m t with ⟨g | a, t', log⟩
  · rw [outcome] at begun
    exact begun
  · rw [outcome] at begun
    exact begun.trans (after a t')

theorem retaining_ask {f : FileTree → Except Fault α} : Retaining (ask f) := fun t => .refl t

theorem retaining_edit {c : FileTree → Except Fault FileTree} (h : ∀ t t', c t = .ok t' → Retains t t') :
    Retaining (edit c) := by
  intro t
  unfold edit
  cases changed : c t with
  | ok t' => exact h t t' changed
  | error g => exact .refl t

theorem retaining_attempt {m : FileAct α} (h : Retaining m) : Retaining m.attempt := h

theorem retaining_settle {f : Fault} : Retaining (settle p f) := by
  unfold settle
  cases f.isSystem with
  | true =>
    refine retaining_bind retaining_ask fun b t => ?_
    cases b <;> exact .refl t
  | false => exact fun t => .refl t

theorem retaining_makeAfter {above : Option (FileAct Unit)} (h : ∀ make, above = some make → Retaining make) :
    Retaining (makeAfter p above) := by
  have made : Retaining (edit fun t => t.makeDirectory p).attempt :=
    retaining_attempt (retaining_edit fun _ _ => retains_makeDirectory)
  unfold makeAfter
  refine retaining_bind made fun r => ?_
  split
  · exact fun t => .refl t
  · next make =>
    refine retaining_bind (h make rfl) fun _ => retaining_bind made fun r => ?_
    cases r with
    | ok u => exact fun t => .refl t
    | error g => exact retaining_settle
  · exact fun t => .refl t
  · exact retaining_settle

theorem retaining_makeDirectories (n : ℕ) : Retaining (makeDirectories n p) := by
  induction n generalizing p with
  | zero => exact retaining_makeAfter fun make none => by cases none
  | succ n ih =>
    refine retaining_makeAfter fun make same => ?_
    cases same
    exact ih

theorem retaining_makeAll : Retaining (makeAll p) := retaining_makeDirectories _

/-! What a path means. -/

theorem Means.later (h : Means site t path p) (retains : Retains t t') : Means site t' path p :=
  ⟨isDirectory_later retains h.1, h.2⟩

theorem Means.unique (h : Means site t path p) (h' : Means site t' path q) : p = q := by
  obtain ⟨-, p', home, rfl⟩ := h
  obtain ⟨-, q', home', rfl⟩ := h'
  rw [home] at home'
  cases home'
  rfl

theorem resolve_of_means (h : Means site t path p) : resolve site path t = ⟨.ok p, t, []⟩ := by
  obtain ⟨there, q, home, rfl⟩ := h
  have asked : ask (fun t => t.isDirectory site.directory) t = ⟨.ok true, t, []⟩ := by rw [ask, there]
  simp only [resolve, bind_apply, asked, Outcome.andThen_ok, home, if_true, pure_apply, after_mk, List.append_nil]

/-- What follows the search for a path that is found. -/
theorem resolve_bind_of_means {α : Type} {k : Path → FileAct α} (meant : Means site t path p) :
    (resolve site path >>= k) t = k p t := by
  rw [bind_of_ok (resolve_of_means meant), after_nil]

/-- Nothing follows the search for a path that is not found. -/
theorem resolve_bind_of_lost {α : Type} {k : Path → FileAct α} (lost : ∀ p, ¬ Means site t path p) :
    (∀ a, ((resolve site path >>= k) t).result ≠ .ok a) ∧ ((resolve site path >>= k) t).world = t := by
  have stays : (resolve site path t).world = t := world_resolve
  rcases ended : resolve site path t with ⟨f | p, t', log⟩
  · rw [ended] at stays
    rw [bind_of_error ended]
    exact ⟨fun a found => (by cases found), stays⟩
  · rw [ended] at stays
    have found : Gives (resolve site path) t p t := ⟨by rw [ended], by rw [ended]; exact stays⟩
    exact absurd (gives_resolve.mp found).1 (lost p)

/-! Texts. -/

/-- The encoding under which texts are kept here. -/
def utf8 : Value := .text "utf-8"

theorem encodingName_utf8 : encodingName utf8 = .ok "utf-8" := by decide

theorem encodingOf_utf8 : encodingOf "utf-8" = .ok .utf8 := by decide +kernel

theorem encode_utf8 (start : Bool) (cs : List Char) :
    (Text.Encoding.utf8.encode start cs).mapError codingFault = .ok (Text.Utf8.encode cs) := rfl

theorem decode_utf8 (cs : List Char) :
    (Text.Encoding.utf8.decode (Text.Utf8.encode cs)).mapError codingFault = .ok cs := by
  have read : Text.Encoding.utf8.decode (Text.Utf8.encode cs) = .ok cs := by
    rw [Text.Encoding.decode, Text.Utf8.decode_encode]
    rfl
  rw [read]
  rfl

/-- The file at a path holds the bytes of a text. -/
def Holds (t : FileTree) (p : Path) (s : String) : Prop := t.readFile p = .ok (Text.Utf8.encode s.toList)

theorem holds_writeText {s : String} (h : Gives (writeText utf8 p s) t () t') : Retains t t' ∧ Holds t' p s := by
  unfold writeText at h
  simp only [gives_bind, gives_ofExcept, gives_edit, encodingName_utf8, Except.ok.injEq] at h
  obtain ⟨_, _, ⟨rfl, rfl⟩, _, t₁, opened, _, _, ⟨known, rfl⟩, _, _, ⟨coded, rfl⟩, written⟩ := h
  rw [encodingOf_utf8] at known
  cases known
  rw [encode_utf8] at coded
  cases coded
  obtain ⟨emptied, -⟩ := readFile_of_writeFile opened
  obtain ⟨filled, -, now, -⟩ := readFile_of_writeFile written
  exact ⟨emptied.trans filled, now⟩

theorem holds_appendText {s s' : String} (held : Holds t p s) (h : Gives (appendText utf8 p s') t () t') :
    Retains t t' ∧ Holds t' p (s ++ s') := by
  unfold appendText at h
  simp only [gives_bind, gives_ofExcept, gives_edit, gives_ask, encodingName_utf8, Except.ok.injEq] at h
  obtain ⟨_, _, ⟨rfl, rfl⟩, _, t₁, opened, _, _, ⟨known, rfl⟩, old, _, ⟨read, rfl⟩, _, _, ⟨coded, rfl⟩, written⟩ := h
  rw [encodingOf_utf8] at known
  cases known
  rw [encode_utf8] at coded
  cases coded
  -- Opening leaves the bytes as they were, and what is written comes behind them.
  obtain ⟨touched, old', still, same⟩ := readFile_of_writeFile opened
  obtain ⟨filled, old'', now, same'⟩ := readFile_of_writeFile written
  rw [same' _ still, same _ held] at now
  refine ⟨touched.trans filled, now.trans ?_⟩
  rw [String.toList_append, Text.Utf8.encode_append]
  rfl

/-- Reading gives the text of a file with its line ends as line feeds, and changes nothing. -/
theorem readText_of_holds {s : String} (held : Holds t p s) :
    readText utf8 p t = ⟨.ok (String.ofList (Text.unifyLineEnds s.toList)), t, []⟩ := by
  unfold Holds at held
  unfold readText
  simp only [bind_apply, ofExcept_apply, encodingName_utf8, Outcome.andThen_ok, ask, held, encodingOf_utf8,
    decode_utf8, pure_apply, after_mk, List.append_nil]

/-! Calls. -/

/-- A path means a file, and the file holds a text. -/
def Keeps (site : Site) (path : Value) (t : FileTree) (s : String) : Prop :=
  ∃ p, Means site t path p ∧ Holds t p s

theorem Keeps.of_means {s : String} (meant : Means site t path p) (retains : Retains t t') (held : Holds t' p s) :
    Keeps site path t' s := ⟨p, meant.later retains, held⟩

/-- What is guarded and answered with yes was done. -/
theorem gives_of_guarded {name : String} {subject : List Value} {m : FileAct Value}
    (h : Gives (guarded name subject (.bool false) m) t (.bool true) t') : Gives m t (.bool true) t' := by
  rcases gives_guarded h with no | done
  · cases no
  · exact done

theorem done_of_guarded {name : String} {subject : List Value} {m : FileAct Value}
    (h : (guarded name subject (.bool false) m t).result = .ok (.bool true)) : (m t).result = .ok (.bool true) :=
  (gives_of_guarded ⟨h, rfl⟩).1

/-- A file that was made holds the text. -/
theorem keeps_createFile {c : String} (h : Gives (createFile site utf8 path (.text c)) t (.bool true) t') :
    Keeps site path t' c := by
  have done := gives_of_guarded h
  simp only [gives_bind, gives_resolve, gives_pure] at done
  obtain ⟨p, _, ⟨meant, rfl⟩, ⟨⟩, t₁, made, ⟨⟩, t₂, wrote, -, rfl⟩ := done
  obtain ⟨retains, held⟩ := holds_writeText wrote
  exact .of_means meant ((retaining_makeAll.of_gives made).trans retains) held

/-- A file whose text was replaced holds the new text. -/
theorem keeps_modifyFile {c : String} (h : Gives (modifyFile site utf8 path (.text c)) t (.bool true) t') :
    Keeps site path t' c := by
  unfold modifyFile at h
  simp only [gives_bind, gives_resolve, gives_ask] at h
  obtain ⟨p, _, ⟨meant, rfl⟩, b, _, ⟨-, rfl⟩, answered⟩ := h
  cases b with
  | false => cases (gives_pure.mp answered).1
  | true =>
    have done := gives_of_guarded answered
    simp only [gives_bind, gives_pure] at done
    obtain ⟨⟨⟩, t₁, wrote, -, rfl⟩ := done
    obtain ⟨retains, held⟩ := holds_writeText wrote
    exact .of_means meant retains held

/-- A file to which a text was added holds both texts. -/
theorem keeps_appendToFile {s c : String} (kept : Keeps site path t s)
    (h : Gives (appendToFile site utf8 path (.text c)) t (.bool true) t') : Keeps site path t' (s ++ c) := by
  obtain ⟨q, meant', held⟩ := kept
  unfold appendToFile at h
  simp only [gives_bind, gives_resolve, gives_ask] at h
  obtain ⟨p, _, ⟨meant, rfl⟩, b, _, ⟨-, rfl⟩, answered⟩ := h
  obtain rfl := meant'.unique meant
  cases b with
  | false => cases (gives_pure.mp answered).1
  | true =>
    have done := gives_of_guarded answered
    simp only [gives_bind, gives_pure] at done
    obtain ⟨⟨⟩, t₁, added, -, rfl⟩ := done
    obtain ⟨retains, both⟩ := holds_appendText held added
    exact .of_means meant retains both

/-- Reading a file that holds a text gives this text with its line ends as line feeds, and changes nothing. -/
theorem readFile_of_keeps {s : String} (kept : Keeps site path t s) :
    readFile site utf8 path t = ⟨.ok (.text (String.ofList (Text.unifyLineEnds s.toList))), t, []⟩ := by
  obtain ⟨p, meant, held⟩ := kept
  have there := present_of_readFile held
  have asked : ask (fun t => t.present p) t = ⟨.ok true, t, []⟩ := by rw [ask, there]
  simp only [readFile, bind_apply, resolve_of_means meant, Outcome.andThen_ok, asked, attempt_apply,
    readText_of_holds held, if_true, pure_apply, after_mk, List.append_nil]

/-- Calls that are all answered with yes, one after the other. -/
inductive AllGranted (site : Site) : FileTree → List FileCall → FileTree → Prop
  | nil {t : FileTree} : AllGranted site t [] t
  | cons {t t' t'' : FileTree} {c : FileCall} {cs : List FileCall} (granted : Gives (c.act site utf8) t (.bool true) t')
      (rest : AllGranted site t' cs t'') : AllGranted site t (c :: cs) t''

/-- Texts that are added one after the other stand one behind the other. -/
theorem keeps_of_appended {s : String} {cs : List String} (kept : Keeps site path t s)
    (granted : AllGranted site t (cs.map fun c => .appendToFile path (.text c)) t') :
    Keeps site path t' (s ++ String.join cs) := by
  induction cs generalizing s t with
  | nil =>
    cases granted
    simpa using kept
  | cons c cs ih =>
    cases granted with
    | cons first rest =>
      have later := ih (keeps_appendToFile kept first) rest
      rw [String.append_assoc] at later
      simpa using later

/-! Line ends. -/

theorem unifyLineEnds_of_notMem {cs : List Char} (free : '\r' ∉ cs) : Text.unifyLineEnds cs = cs := by
  fun_induction Text.unifyLineEnds cs with
  | case1 => rfl
  | case2 rest ih => exact absurd List.mem_cons_self free
  | case3 c rest _ ih =>
    rw [List.mem_cons, not_or] at free
    rw [ih free.2, if_neg (Ne.symm free.1)]

theorem notMem_unifyLineEnds (cs : List Char) : '\r' ∉ Text.unifyLineEnds cs := by
  fun_induction Text.unifyLineEnds cs with
  | case1 => exact List.not_mem_nil
  | case2 rest ih => simp [ih]
  | case3 c rest _ ih =>
    by_cases carriage : c = '\r'
    · simp [carriage, ih]
    · simp [carriage, ih, Ne.symm carriage]

/-- Line ends are all line feeds already if there is no carriage return. -/
theorem unifyLineEnds_eq_self_iff {cs : List Char} : Text.unifyLineEnds cs = cs ↔ '\r' ∉ cs := by
  constructor
  · intro same
    rw [← same]
    exact notMem_unifyLineEnds cs
  · exact unifyLineEnds_of_notMem

/-- A text that is put into a file, made or found there, and the texts that are added to it make up the file: its
bytes are those of the whole text, and reading it gives the whole text with every line end as a line feed and changes
nothing. So the text is read as it was written if and only if there is no carriage return in it. -/
theorem written_read_back (site : Site) (path : Value) (first : FileCall) (c₀ : String) (cs : List String)
    (t t' : FileTree) (puts : first = .createFile path (.text c₀) ∨ first = .modifyFile path (.text c₀))
    (granted : AllGranted site t (first :: cs.map fun c => .appendToFile path (.text c)) t') :
    (∃ p, Means site t' path p ∧ t'.readFile p = .ok (Text.Utf8.encode (c₀ ++ String.join cs).toList)) ∧
      (FileCall.readFile path).act site utf8 t' =
        ⟨.ok (.text (String.ofList (Text.unifyLineEnds (c₀ ++ String.join cs).toList))), t', []⟩ ∧
      (((FileCall.readFile path).act site utf8 t').result = .ok (.text (c₀ ++ String.join cs)) ↔
        '\r' ∉ (c₀ ++ String.join cs).toList) := by
  have kept : Keeps site path t' (c₀ ++ String.join cs) := by
    cases granted with
    | cons begun rest =>
      refine keeps_of_appended ?_ rest
      rcases puts with rfl | rfl
      · exact keeps_createFile begun
      · exact keeps_modifyFile begun
  have read : (FileCall.readFile path).act site utf8 t' =
      ⟨.ok (.text (String.ofList (Text.unifyLineEnds (c₀ ++ String.join cs).toList))), t', []⟩ :=
    readFile_of_keeps kept
  refine ⟨kept, read, ?_⟩
  rw [read, ← unifyLineEnds_eq_self_iff, Except.ok.injEq, Value.text.injEq, ← String.toList_inj, String.toList_ofList]

/-- A directory and a link to it. -/
def linkedTree : FileTree := ⟨[(["d"], .directory), (["l"], .link "d")]⟩

/-- A file is made below the link, in a directory that is not there yet, and a text that ends in a carriage return is
added to it. -/
def linkedCalls : List FileCall :=
  .createFile (.text "l/e/f") (.text "\u00e9\n") ::
    ["", "😀\r"].map fun c => .appendToFile (.text "l/e/f") (.text c)

theorem written_read_back_linked :
    AllGranted filing.site linkedTree linkedCalls (treeAfter filing.site utf8 linkedTree linkedCalls) ∧
      ((FileCall.readFile (.text "l/e/f")).act filing.site utf8
        (treeAfter filing.site utf8 linkedTree linkedCalls)).result = .ok (.text "\u00e9\n😀\n") := by
  have granted : AllGranted filing.site linkedTree linkedCalls (treeAfter filing.site utf8 linkedTree linkedCalls) :=
    .cons ⟨by decide +kernel, rfl⟩ (.cons ⟨by decide +kernel, rfl⟩ (.cons ⟨by decide +kernel, rfl⟩ .nil))
  obtain ⟨-, read, -⟩ := written_read_back filing.site (.text "l/e/f") _ "\u00e9\n" ["", "😀\r"] linkedTree _
    (.inl rfl) granted
  refine ⟨granted, ?_⟩
  rw [read]
  decide +kernel

/-- A carriage return at the end of one text and a line feed at the beginning of the next are read as one line feed. -/
theorem carriage_return_lost :
    ¬ ∀ (site : Site) (path : Value) (c₀ : String) (cs : List String) (t t' : FileTree),
      AllGranted site t (.createFile path (.text c₀) :: cs.map fun c => .appendToFile path (.text c)) t' →
        ((FileCall.readFile path).act site utf8 t').result = .ok (.text (c₀ ++ String.join cs)) := by
  intro same
  have granted : AllGranted filing.site ⟨[]⟩
      (.createFile (.text "f") (.text "a\r") :: ["\nb"].map fun c => .appendToFile (.text "f") (.text c)) _ :=
    .cons ⟨by decide +kernel, rfl⟩ (.cons ⟨by decide +kernel, rfl⟩ .nil)
  have read := same filing.site (.text "f") "a\r" ["\nb"] ⟨[]⟩ _ granted
  revert read
  decide +kernel

end Files

end Stepwise
