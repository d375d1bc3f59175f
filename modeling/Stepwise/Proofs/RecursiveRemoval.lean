import Mathlib.Data.List.Induction
import Stepwise.Proofs.WrittenFiles

/-!
Removing what is in a directory leaves everything outside of it alone. What is removed stands at places inside the
directory, so links that are met are removed themselves and what they lead to is not; and in a tree from which nodes
were taken away, a path leads where it led before or to nothing, even if it ran through what was removed.
-/

namespace Stepwise

namespace FileTree

variable {t t' t'' : FileTree} {follow : Bool} {onward onward' : Onward} {here place q : Place} {names : List String}
variable {s : Spot} {p : Path} {n : Node} {part part' : Place → Prop}

/-! Trees as a file system has them. -/

/-- Every node stands in a directory, and no name is a dot or a double dot. -/
structure IsTree (t : FileTree) : Prop where
  rooted : ∀ e ∈ t.entries, t.find? e.1.dropLast = some .directory
  named : ∀ e ∈ t.entries, ∀ name ∈ e.1, name ≠ "." ∧ name ≠ ".."

/-- What is found below the root is an entry. -/
theorem mem_of_find? (below : q ≠ []) (found : t.find? q = some n) : (q, n) ∈ t.entries := by
  simp only [find?, List.isEmpty_iff, below, if_false, Option.map_eq_some_iff] at found
  obtain ⟨e, there, rfl⟩ := found
  have same : e.1 = q := by simpa using List.find?_some there
  rw [← same]
  exact List.mem_of_find?_eq_some there

theorem IsTree.above (tree : IsTree t) (found : t.find? q = some n) : t.find? q.dropLast = some .directory := by
  by_cases below : q = []
  · rw [below, List.dropLast_nil, find?_root]
  · exact tree.rooted _ (mem_of_find? below found)

/-- Whatever holds a node is a directory. -/
theorem IsTree.ancestor (tree : IsTree t) {more : List String} (found : t.find? (q ++ more) = some n)
    (inside : more ≠ []) : t.find? q = some .directory := by
  induction more using List.reverseRecOn generalizing n with
  | nil => exact absurd rfl inside
  | append_singleton more name ih =>
    have up := tree.above found
    rw [← List.append_assoc, List.dropLast_concat] at up
    by_cases right : more = []
    · rwa [right, List.append_nil] at up
    · exact ih up right

theorem isInside_iff : isInside q place = true ↔ ∃ name more, q = place ++ name :: more := by
  simp only [isInside, Bool.and_eq_true, List.isPrefixOf_iff_prefix, decide_eq_true_eq]
  constructor
  · rintro ⟨⟨more, rfl⟩, longer⟩
    cases more with
    | nil => simp at longer
    | cons name more => exact ⟨name, more, rfl⟩
  · rintro ⟨name, more, rfl⟩
    exact ⟨List.prefix_append _ _, by simp⟩

/-! Trees with some nodes taken away. -/

/-- The second tree is the first one without some of the nodes of a part: outside of the part nothing was made, changed
or removed, and inside of it nothing was made or changed. -/
structure Pruned (part : Place → Prop) (t t' : FileTree) : Prop where
  kept : ∀ q, ¬ part q → t'.find? q = t.find? q
  less : ∀ q n, t'.find? q = some n → t.find? q = some n

theorem Pruned.refl (part : Place → Prop) (t : FileTree) : Pruned part t t := ⟨fun _ _ => rfl, fun _ _ h => h⟩

theorem Pruned.trans (h : Pruned part t t') (h' : Pruned part t' t'') : Pruned part t t'' :=
  ⟨fun q out => (h'.kept q out).trans (h.kept q out), fun q n found => h.less q n (h'.less q n found)⟩

theorem Pruned.mono (h : Pruned part t t') (sub : ∀ q, part q → part' q) : Pruned part' t t' :=
  ⟨fun q out => h.kept q fun inside => out (sub q inside), h.less⟩

theorem Pruned.gone (h : Pruned part t t') (found : t.find? q = none) : t'.find? q = none := by
  cases again : t'.find? q with
  | none => rfl
  | some n =>
    rw [h.less q n again] at found
    cases found

theorem find?_filter (keep : Place → Bool) (below : q ≠ []) :
    (⟨t.entries.filter fun e => keep e.1⟩ : FileTree).find? q = if keep q = true then t.find? q else none := by
  simp only [find?, List.isEmpty_iff, below, if_false, List.find?_filter]
  by_cases kept : keep q = true
  · rw [if_pos kept]
    congr 2
    funext e
    by_cases same : e.1 = q
    · simp [same, kept]
    · simp [same]
  · rw [if_neg kept, Option.map_eq_none_iff, List.find?_eq_none]
    intro e _
    by_cases same : e.1 = q
    · simp [same, kept]
    · simp [same]

/-- The entries at the places that are kept are the tree without the others. -/
theorem pruned_filter (keep : Place → Bool) :
    Pruned (fun q => keep q = false) t ⟨t.entries.filter fun e => keep e.1⟩ := by
  refine ⟨fun q out => ?_, fun q n found => ?_⟩
  · by_cases below : q = []
    · rw [below, find?_root, find?_root]
    · rw [find?_filter keep below, if_pos (by simpa using out)]
  · by_cases below : q = []
    · rwa [below, find?_root] at found ⊢
    · rw [find?_filter keep below] at found
      split at found
      · exact found
      · cases found

theorem pruned_erase (place : Place) : Pruned (· = place) t (t.erase place) :=
  (pruned_filter fun q => q != place).mono fun q cut => by simpa using cut

theorem pruned_eraseInside (place : Place) : Pruned (isInside · place = true) t (t.eraseInside place) :=
  (pruned_filter fun q => !isInside q place).mono fun q cut => by simpa using cut

theorem find?_erase_self (below : place ≠ []) : (t.erase place).find? place = none := by
  rw [find?_erase t place place below, if_pos rfl]

theorem prefix_of_isInside (inside : isInside q place = true) : place <+: q := by
  obtain ⟨name, more, rfl⟩ := isInside_iff.mp inside
  exact List.prefix_append _ _

/-- A directory that is taken away with all that is in it. -/
theorem find?_erase_eraseInside (below : place ≠ []) :
    ∀ q, place <+: q → ((t.eraseInside place).erase place).find? q = none := by
  rintro q ⟨more, rfl⟩
  have deep : place ++ more ≠ [] := List.append_ne_nil_of_left_ne_nil below more
  rw [find?_erase _ _ _ deep]
  split
  · rfl
  · next apart =>
    have inside : isInside (place ++ more) place = true := by
      cases more with
      | nil => simp at apart
      | cons name more => exact isInside_iff.mpr ⟨name, more, rfl⟩
    unfold eraseInside
    rw [find?_filter (fun q => !isInside q place) deep, if_neg (by simp [inside])]

/-! Walks in such trees. -/

/-- A walk that comes to nothing. -/
def Nowhere (r : Except Errno Spot) : Prop := r = .error .noEntry ∨ ∃ place, r = .ok ⟨place, none⟩

/-- A walk comes to the same in a tree with less in it, or to nothing. -/
theorem walkFrom_less (less : ∀ q n, t'.find? q = some n → t.find? q = some n)
    (after : ∀ here names, onward' here names = onward here names ∨ Nowhere (onward' here names)) :
    walkFrom t' follow onward' here names = walkFrom t follow onward here names ∨
      Nowhere (walkFrom t' follow onward' here names) := by
  fun_induction walkFrom t' follow onward' here names with
  | case1 => exact .inl rfl
  | case2 here rest ih =>
    rw [walkFrom, if_pos rfl]
    exact ih
  | case3 here rest dot ih =>
    rw [walkFrom, if_neg dot, if_pos rfl]
    exact ih
  | case4 here name rest dot dots long =>
    rw [walkFrom, if_neg dot, if_neg dots, if_pos long]
    exact .inl rfl
  -- What is not found may have been taken away.
  | case5 => exact .inr (.inr ⟨_, rfl⟩)
  | case6 => exact .inr (.inl rfl)
  | case7 here name rest dot dots short found ih =>
    rw [walkFrom, if_neg dot, if_neg dots, if_neg short, less _ _ found]
    exact ih
  | case8 here name rest dot dots short bytes found last =>
    rw [walkFrom, if_neg dot, if_neg dots, if_neg short, less _ _ found]
    exact .inl (if_pos last).symm
  | case9 here name rest dot dots short bytes found last =>
    rw [walkFrom, if_neg dot, if_neg dots, if_neg short, less _ _ found]
    exact .inl (if_neg last).symm
  | case10 here name rest dot dots short target found last =>
    rw [walkFrom, if_neg dot, if_neg dots, if_neg short, less _ _ found]
    exact .inl (if_pos last).symm
  | case11 => exact .inr (.inl rfl)
  | case12 here name rest dot dots short target found last empty goal =>
    rw [walkFrom, if_neg dot, if_neg dots, if_neg short, less _ _ found]
    simp only [last, empty]
    exact after _ _

theorem walk_less (follow : Bool) (less : ∀ q n, t'.find? q = some n → t.find? q = some n) {n : ℕ} :
    walk t' follow n here names = walk t follow n here names ∨ Nowhere (walk t' follow n here names) := by
  induction n generalizing here names with
  | zero => exact walkFrom_less less fun _ _ => .inl rfl
  | succ n ih => exact walkFrom_less less fun _ _ => ih

/-- A walk to a directory goes on from there. -/
theorem walkFrom_append {d : Place} {rest : List String} (more : rest ≠ [])
    (after : ∀ here names, onward here names = .ok ⟨d, some .directory⟩ →
      ∃ onward'', onward' here (names ++ rest) = walkFrom t follow onward'' d rest)
    (h : walkFrom t true onward here names = .ok ⟨d, some .directory⟩) :
    ∃ onward'', walkFrom t follow onward' here (names ++ rest) = walkFrom t follow onward'' d rest := by
  fun_induction walkFrom t true onward here names with
  | case1 =>
    cases h
    exact ⟨onward', rfl⟩
  | case2 here rest ih =>
    rw [List.cons_append, walkFrom, if_pos rfl]
    exact ih h
  | case3 here rest dot ih =>
    rw [List.cons_append, walkFrom, if_neg dot, if_pos rfl]
    exact ih h
  | case4 => cases h
  | case5 => cases h
  | case6 => cases h
  | case7 here name rest dot dots short found ih =>
    rw [List.cons_append, walkFrom, if_neg dot, if_neg dots, if_neg short, found]
    exact ih h
  | case8 => cases h
  | case9 => cases h
  | case10 => cases h
  | case11 => cases h
  | case12 here name names dot dots short target found last full goal =>
    rw [List.cons_append, walkFrom, if_neg dot, if_neg dots, if_neg short, found]
    simp only [List.isEmpty_eq_false_iff.mpr (List.append_ne_nil_of_right_ne_nil names more), full, Bool.false_and]
    rw [← List.append_assoc]
    exact after _ _ h

theorem walk_append (follow : Bool) {d : Place} {rest : List String} (more : rest ≠ []) {n : ℕ}
    (h : walk t true n here names = .ok ⟨d, some .directory⟩) :
    ∃ onward, walk t follow n here (names ++ rest) = walkFrom t follow onward d rest := by
  induction n generalizing here names with
  | zero => exact walkFrom_append more (fun _ _ looped => by cases looped) h
  | succ n ih => exact walkFrom_append more (fun _ _ found => ih found) h

/-- In a tree, a walk that ends in a directory has found it. -/
theorem IsTree.directory_of_walkFrom (tree : IsTree t)
    (after : ∀ here names s, t.find? here = some .directory → onward here names = .ok s →
      s.node = some .directory → t.find? s.place = some .directory)
    (start : t.find? here = some .directory) (h : walkFrom t follow onward here names = .ok s)
    (directory : s.node = some .directory) : t.find? s.place = some .directory := by
  fun_induction walkFrom t follow onward here names with
  | case1 =>
    cases h
    exact start
  | case2 here rest ih => exact ih start h
  | case3 here rest _ ih => exact ih (tree.above start) h
  | case4 => cases h
  | case5 =>
    cases h
    cases directory
  | case6 => cases h
  | case7 here name rest _ _ _ found ih => exact ih found h
  | case8 =>
    cases h
    cases directory
  | case9 => cases h
  | case10 =>
    cases h
    cases directory
  | case11 => cases h
  | case12 here name rest _ _ _ target found last full goal =>
    refine after _ _ _ ?_ h directory
    by_cases relative : goal.root.isEmpty = true
    · rwa [if_pos relative]
    · rw [if_neg relative, find?_root]

theorem IsTree.directory_of_walk (tree : IsTree t) {n : ℕ} (start : t.find? here = some .directory)
    (h : walk t follow n here names = .ok s) (directory : s.node = some .directory) :
    t.find? s.place = some .directory := by
  induction n generalizing here names s with
  | zero => exact tree.directory_of_walkFrom (fun _ _ _ _ looped => by cases looped) start h directory
  | succ n ih =>
    exact tree.directory_of_walkFrom (fun _ _ _ start found directory => ih start found directory) start h directory

/-- Where there is nothing at a place nor inside it, a walk that finds something finds it elsewhere. -/
theorem not_prefix_of_walkFrom {d : Place} (below : d ≠ []) (empty : ∀ q, d <+: q → t.find? q = none)
    (after : ∀ here names s, ¬ d <+: here → onward here names = .ok s → s.node ≠ none → ¬ d <+: s.place)
    (start : ¬ d <+: here) (h : walkFrom t follow onward here names = .ok s) (found : s.node ≠ none) :
    ¬ d <+: s.place := by
  have entered {q : Place} {n : Node} (there : t.find? q = some n) : ¬ d <+: q := by
    intro within
    rw [empty q within] at there
    cases there
  fun_induction walkFrom t follow onward here names with
  | case1 =>
    cases h
    exact start
  | case2 here rest ih => exact ih start h
  | case3 here rest _ ih => exact ih (fun within => start (within.trans here.dropLast_prefix)) h
  | case4 => cases h
  | case5 =>
    cases h
    exact absurd rfl found
  | case6 => cases h
  | case7 here name rest _ _ _ there ih => exact ih (entered there) h
  | case8 here name rest _ _ _ bytes there _ =>
    cases h
    exact entered there
  | case9 => cases h
  | case10 here name rest _ _ _ target there _ =>
    cases h
    exact entered there
  | case11 => cases h
  | case12 here name rest _ _ _ target there last full goal =>
    refine after _ _ _ ?_ h found
    by_cases relative : goal.root.isEmpty = true
    · rwa [if_pos relative]
    · rw [if_neg relative]
      exact fun within => below (List.prefix_nil.mp within)

theorem not_prefix_of_walk {d : Place} (below : d ≠ []) (empty : ∀ q, d <+: q → t.find? q = none) {n : ℕ}
    (start : ¬ d <+: here) (h : walk t follow n here names = .ok s) (found : s.node ≠ none) : ¬ d <+: s.place := by
  induction n generalizing here names s with
  | zero => exact not_prefix_of_walkFrom below empty (fun _ _ _ _ looped => by cases looped) start h found
  | succ n ih =>
    exact not_prefix_of_walkFrom below empty (fun _ _ _ start walked found => ih start walked found) start h found

/-! What paths lead to. -/

/-- One name from a directory leads to the place of that name in it; links are not followed. -/
theorem walkFrom_single {name : String} (dot : name ≠ ".") (dots : name ≠ "..")
    (h : walkFrom t false onward here [name] = .ok s) : s.place = here ++ [name] := by
  rw [walkFrom, if_neg dot, if_neg dots] at h
  split at h
  · cases h
  · cases there : t.find? (here ++ [name]) with
    | none =>
      rw [there] at h
      cases h
      rfl
    | some n =>
      rw [there] at h
      cases n <;> (cases h; rfl)

/-- A path leads to the same spot in a tree with less in it, or to nothing. -/
theorem spot_less (follow : Bool) (p : Path) (less : ∀ q n, t'.find? q = some n → t.find? q = some n) :
    t'.spot follow p = t.spot follow p ∨ t'.status follow p = refuse .noEntry [p] := by
  unfold status spot locate
  by_cases null : p.hasNull = true
  · rw [if_pos null, if_pos null]
    exact .inl rfl
  · rw [if_neg null, if_neg null]
    by_cases long : longestPath < byteLength p.text
    · rw [if_pos long, if_pos long]
      exact .inl rfl
    · rw [if_neg long, if_neg long]
      rcases walk_less follow less with same | error | ⟨place, nothing⟩
      · exact .inl (by rw [same])
      · exact .inr (by rw [error]; rfl)
      · exact .inr (by rw [nothing])

/-- What a path leads to in a tree with less in it, it led to before. -/
theorem spot_of_less (less : ∀ q n, t'.find? q = some n → t.find? q = some n)
    (h : t'.spot follow p = .ok ⟨place, some n⟩) : t.spot follow p = .ok ⟨place, some n⟩ := by
  rcases spot_less follow p less with same | gone
  · rw [← same, h]
  · rw [status_of_spot h] at gone
    cases gone

/-- An entry of the directory that a path leads to. -/
theorem spot_child {d : Place} {name : String} (dots : name ≠ "." ∧ name ≠ "..")
    (h : t.spot true p = .ok ⟨d, some .directory⟩) (h' : t.spot false (p.child name) = .ok s) :
    s.place = d ++ [name] := by
  obtain ⟨-, walked⟩ := locate_ok (clear_of_spot h).2
  obtain ⟨-, walked'⟩ := locate_ok (clear_of_spot h').2
  obtain ⟨onward, same⟩ := walk_append false (List.cons_ne_nil name []) walked
  rw [Path.child, same] at walked'
  exact walkFrom_single dots.1 dots.2 walked'

theorem IsTree.find?_of_spot (tree : IsTree t) (h : t.spot follow p = .ok s) : t.find? s.place = s.node := by
  rcases ends_of_spot h with directory | ⟨-, same, -⟩
  · rw [directory]
    exact tree.directory_of_walk (find?_root t) (locate_ok (clear_of_spot h).2).2 directory
  · exact same

/-- A path to a directory that is gone with all that was in it leads to nothing. -/
theorem present_of_gone {d : Place} (below : d ≠ []) (less : ∀ q n, t'.find? q = some n → t.find? q = some n)
    (gone : ∀ q, d <+: q → t'.find? q = none) (h : t.spot true p = .ok ⟨d, some .directory⟩) :
    t'.present p = .ok false := by
  rcases spot_less true p less with same | absent
  · rw [h] at same
    have elsewhere := not_prefix_of_walk below gone (fun within => below (List.prefix_nil.mp within))
      (locate_ok (clear_of_spot same).2).2 (Option.some_ne_none _)
    exact absurd List.prefix_rfl elsewhere
  · unfold present question
    rw [absent]
    rfl

theorem isDirectory_of_spot (h : t.spot true p = .ok ⟨place, some .directory⟩) : t.isDirectory p = .ok true := by
  unfold isDirectory question
  rw [status_of_spot h]
  rfl

theorem removeFile_ok (h : t.removeFile p = .ok t') :
    ∃ place n, t.spot false p = .ok ⟨place, some n⟩ ∧ n ≠ .directory ∧ t' = t.erase place := by
  unfold removeFile at h
  rcases found : t.spot false p with f | ⟨place, _ | n⟩
  · rw [found] at h
    cases h
  · rw [found] at h
    cases h
  · rw [found] at h
    refine ⟨place, n, rfl, ?_⟩
    cases n with
    | directory => cases h
    | file bytes =>
      cases h
      exact ⟨Node.noConfusion, rfl⟩
    | link target =>
      cases h
      exact ⟨Node.noConfusion, rfl⟩

theorem removeDirectory_ok (h : t.removeDirectory p = .ok t') :
    ∃ place, t.spot false p = .ok ⟨place, some .directory⟩ ∧ place ≠ [] ∧ t' = t.erase place := by
  unfold removeDirectory at h
  rcases found : t.spot false p with f | ⟨place, _ | n⟩
  · rw [found] at h
    cases h
  · rw [found] at h
    cases h
  · rw [found] at h
    cases n with
    | directory =>
      dsimp only at h
      split at h
      · cases h
      · next below =>
        split at h
        · cases h
        · cases h
          exact ⟨place, rfl, by simpa using below, rfl⟩
    | file bytes => cases h
    | link target => cases h

/-- The names of a directory are those of the nodes right inside it. -/
theorem mem_names {d : Place} {name : String} (found : t.find? (d ++ [name]) = some n) : name ∈ t.names d := by
  have inside : d ++ [name] ≠ [] := List.concat_ne_nil name d
  refine List.mem_filterMap.mpr ⟨_, mem_of_find? inside found, ?_⟩
  simp

theorem IsTree.named_of_names (tree : IsTree t) {d : Place} : ∀ name ∈ t.names d, name ≠ "." ∧ name ≠ ".." := by
  intro name listed
  obtain ⟨e, there, last⟩ := List.mem_filterMap.mp listed
  split at last
  · exact tree.named e there name (List.mem_of_getLast? last)
  · cases last

theorem list_of_spot {d : Place} (h : t.spot true p = .ok ⟨d, some .directory⟩) : t.list p = .ok (t.names d) := by
  unfold FileTree.list
  rw [h]

end FileTree

namespace Files

open Act FileTree

variable {site : Site} {t t' : FileTree} {p : Path} {path : Value} {d : Place}

/-! Removing. -/

/-- Removing what is at a path changes nothing, or it takes away what stands at the place that the path leads to; if
it succeeds, nothing is left of that. -/
def Removes (t : FileTree) (p : Path) (r : Outcome Deed FileTree Unit) : Prop :=
  r.world = t ∧ r.result ≠ .ok () ∨
    ∃ place n, t.spot false p = .ok ⟨place, some n⟩ ∧ Pruned (place <+: ·) t r.world ∧
      (r.result = .ok () → r.world.find? place = none ∧
        (n = .directory → ∀ q, place <+: q → r.world.find? q = none))

theorem removes_removeFile : Removes t p (edit (fun t => t.removeFile p) t) := by
  cases removed : t.removeFile p with
  | error f =>
    rw [edit_of_error removed]
    exact .inl ⟨rfl, by simp⟩
  | ok t' =>
    obtain ⟨place, n, found, other, rfl⟩ := removeFile_ok removed
    rw [edit_of_ok removed]
    refine .inr ⟨place, n, found, (pruned_erase place).mono fun q here => ?_, fun _ => ⟨?_, ?_⟩⟩
    · exact here ▸ List.prefix_rfl
    · refine find?_erase_self ?_
      rintro rfl
      rcases ends_of_spot found with directory | ⟨-, root, -⟩
      · exact other (Option.some.inj directory)
      · exact other (Option.some.inj (root.symm.trans (find?_root t)))
    · exact fun directory => absurd directory other

/-- Removing a tree changes nothing, or there is a directory right at the path, without a link, and it is taken away
with what is in it; if the removal succeeds, nothing is left of that. -/
theorem removeTree_cases :
    (removeTree p t).world = t ∧ (removeTree p t).result ≠ .ok () ∨
      ∃ d, t.spot false p = .ok ⟨d, some .directory⟩ ∧ Pruned (d <+: ·) t (removeTree p t).world ∧
        ((removeTree p t).result = .ok () → ∀ q, d <+: q → (removeTree p t).world.find? q = none) := by
  unfold removeTree
  cases found : t.status false p with
  | error f =>
    rw [ask_bind_of_error found]
    exact .inl ⟨rfl, by simp⟩
  | ok n =>
    rw [ask_bind_of_ok found]
    cases n with
    | link target => exact .inl ⟨rfl, by simp⟩
    | file bytes => exact .inl ⟨rfl, by simp⟩
    | directory =>
      obtain ⟨d, leads⟩ := spot_of_status found
      have inside := pruned_eraseInside (t := t) d
      have within : Pruned (d <+: ·) t (t.eraseInside d) := inside.mono fun q => prefix_of_isInside
      have emptied : (t.spot false p).map (fun s => t.eraseInside s.place) = .ok (t.eraseInside d) := by
        rw [leads]
        rfl
      dsimp only
      rw [edit_bind_of_ok emptied]
      cases removed : (t.eraseInside d).removeDirectory p with
      | error f =>
        rw [edit_of_error removed]
        exact .inr ⟨d, leads, within, by simp⟩
      | ok t' =>
        -- What is in the directory is gone, but the path still leads to it.
        obtain ⟨d', found', below, rfl⟩ := removeDirectory_ok removed
        have same := spot_of_less inside.less found'
        rw [leads] at same
        cases same
        rw [edit_of_ok removed]
        refine .inr ⟨d, leads, within.trans ((pruned_erase d).mono fun q here => ?_), fun _ => ?_⟩
        · exact here ▸ List.prefix_rfl
        · exact find?_erase_eraseInside below

theorem removes_removeTree : Removes t p (removeTree p t) := by
  rcases removeTree_cases (t := t) (p := p) with nothing | ⟨d, leads, within, gone⟩
  · exact .inl nothing
  · exact .inr ⟨d, .directory, leads, within, fun done => ⟨gone done d List.prefix_rfl, fun _ => gone done⟩⟩

theorem removes_removeEntry : Removes t p (removeEntry p t) := by
  unfold removeEntry
  cases asked : t.isDirectory p with
  | error f =>
    rw [ask_bind_of_error asked]
    exact .inl ⟨rfl, by simp⟩
  | ok b =>
    rw [ask_bind_of_ok asked]
    cases b with
    | false => exact removes_removeFile
    | true =>
      rw [if_pos rfl]
      cases found : t.status false p with
      | error f =>
        rw [ask_bind_of_error found]
        exact .inl ⟨rfl, by simp⟩
      | ok n =>
        rw [ask_bind_of_ok found]
        cases n with
        | link target => exact removes_removeFile
        | directory => exact removes_removeTree
        | file bytes => exact removes_removeTree

/-- An entry of a directory is removed without a trace outside, though what is removed before it may have taken away
the path to the directory. -/
theorem removeEntry_inside (tree : IsTree t) (leads : t.spot true p = .ok ⟨d, some .directory⟩) {name : String}
    (dots : name ≠ "." ∧ name ≠ "..") (pruned : Pruned (isInside · d = true) t t') :
    Pruned (isInside · d = true) t' (removeEntry (p.child name) t').world ∧
      ((removeEntry (p.child name) t').result = .ok () →
        ∀ q, d ++ [name] <+: q → (removeEntry (p.child name) t').world.find? q = none) := by
  rcases removes_removeEntry (t := t') (p := p.child name) with ⟨same, failed⟩ | ⟨place, n, found, within, gone⟩
  · rw [same]
    exact ⟨.refl _ _, fun done => absurd done failed⟩
  · have before := spot_of_less pruned.less found
    obtain rfl : place = d ++ [name] := spot_child dots leads before
    have node : t.find? (d ++ [name]) = some n := tree.find?_of_spot before
    refine ⟨within.mono fun q inside => ?_, fun done q inside => ?_⟩
    · obtain ⟨more, rfl⟩ := inside
      rw [List.append_assoc]
      exact isInside_iff.mpr ⟨name, more, rfl⟩
    · obtain ⟨here, all⟩ := gone done
      by_cases directory : n = .directory
      · exact all directory q inside
      · obtain ⟨more, rfl⟩ := inside
        by_cases right : more = []
        · rwa [right, List.append_nil]
        · refine within.gone (pruned.gone ?_)
          cases held : t.find? (d ++ [name] ++ more) with
          | none => rfl
          | some m =>
            rw [tree.ancestor held right] at node
            exact absurd (Option.some.inj node).symm directory

/-- Entries of a directory are removed one after the other without a trace outside. -/
theorem removeEntries_inside (tree : IsTree t) (leads : t.spot true p = .ok ⟨d, some .directory⟩) {names : List String}
    (dots : ∀ name ∈ names, name ≠ "." ∧ name ≠ "..") (pruned : Pruned (isInside · d = true) t t') :
    Pruned (isInside · d = true) t' (removeEntries p names t').world ∧
      ((removeEntries p names t').result = .ok () →
        ∀ name ∈ names, ∀ q, d ++ [name] <+: q → (removeEntries p names t').world.find? q = none) := by
  induction names generalizing t' with
  | nil => exact ⟨.refl _ _, fun _ name none => absurd none List.not_mem_nil⟩
  | cons name rest ih =>
    obtain ⟨first, gone⟩ := removeEntry_inside tree leads (dots name List.mem_cons_self) pruned
    rw [removeEntries]
    rcases ended : removeEntry (p.child name) t' with ⟨f | u, t₁, log⟩
    · rw [ended] at first
      rw [bind_of_error ended]
      exact ⟨first, fun done => by cases done⟩
    · rw [ended] at first gone
      rw [bind_of_ok ended]
      obtain ⟨later, emptied⟩ := ih (fun n listed => dots n (List.mem_cons_of_mem name listed)) (pruned.trans first)
      refine ⟨first.trans later, fun done n listed q inside => ?_⟩
      rcases List.mem_cons.mp listed with rfl | listed
      · exact later.gone (gone rfl q inside)
      · exact emptied done n listed q inside

/-! Clearing and deleting. -/

/-- The place of the directory that an argument denotes, links followed. -/
def DenotesDirectory (site : Site) (t : FileTree) (path : Value) (d : Place) : Prop :=
  ∃ p, Means site t path p ∧ t.spot true p = .ok ⟨d, some .directory⟩

/-- Clearing a directory is removing its entries, under guard. -/
theorem clearDirectory_of_leads (meant : Means site t path p) (leads : t.spot true p = .ok ⟨d, some .directory⟩) :
    clearDirectory site path t = guarded "clear_directory" [path] (.bool false)
      (removeEntries p (t.names d) >>= fun _ => pure (.bool true)) t := by
  unfold clearDirectory
  rw [resolve_bind_of_means meant, ask_bind_of_ok (isDirectory_of_spot leads), if_pos rfl]
  unfold guarded
  rw [bind_apply, attempt_apply, ask_bind_of_ok (list_of_spot leads)]
  rfl

theorem clearDirectory_inside (tree : IsTree t) (denoted : DenotesDirectory site t path d) :
    Pruned (isInside · d = true) t (clearDirectory site path t).world ∧
      ((clearDirectory site path t).result = .ok (.bool true) →
        (clearDirectory site path t).world.find? d = some .directory ∧
          ∀ q, isInside q d = true → (clearDirectory site path t).world.find? q = none) := by
  obtain ⟨p, meant, leads⟩ := denoted
  obtain ⟨pruned, emptied⟩ :=
    removeEntries_inside tree leads (tree.named_of_names (d := d)) (Pruned.refl (isInside · d = true) t)
  rw [clearDirectory_of_leads meant leads, world_guarded, world_then_pure]
  refine ⟨pruned, fun yes => ⟨?_, fun q inside => ?_⟩⟩
  · rw [pruned.kept d (by simp [isInside])]
    exact tree.find?_of_spot leads
  · obtain ⟨name, more, rfl⟩ := isInside_iff.mp inside
    have split : d ++ name :: more = d ++ [name] ++ more := by simp
    cases held : t.find? (d ++ name :: more) with
    | none => exact pruned.gone held
    | some n =>
      -- What holds a node of the tree is an entry of the directory, or the node itself is one.
      have entry : ∃ n, t.find? (d ++ [name]) = some n := by
        by_cases right : more = []
        · exact ⟨n, by rw [← held, right]⟩
        · exact ⟨_, tree.ancestor (split ▸ held) right⟩
      obtain ⟨m, found⟩ := entry
      refine emptied (done_of_then_pure (done_of_guarded yes)) name (mem_names found) _ ?_
      rw [split]
      exact List.prefix_append _ _

/-- Where there is no directory, nothing is cleared. -/
theorem clearDirectory_elsewhere (elsewhere : ∀ d, ¬ DenotesDirectory site t path d) :
    (clearDirectory site path t).result ≠ .ok (.bool true) ∧ (clearDirectory site path t).world = t := by
  unfold clearDirectory
  by_cases found : ∃ p, Means site t path p
  · obtain ⟨p, meant⟩ := found
    rw [resolve_bind_of_means meant]
    cases there : t.isDirectory p with
    | error f =>
      rw [ask_bind_of_error there]
      exact ⟨fun yes => (by cases yes), rfl⟩
    | ok b =>
      rw [ask_bind_of_ok there]
      cases b with
      | false => exact ⟨fun yes => (by cases yes), rfl⟩
      | true =>
        obtain ⟨⟨d, node⟩, leads, rfl⟩ := spot_of_isDirectory there
        exact absurd ⟨p, meant, leads⟩ (elsewhere d)
  · obtain ⟨failed, stays⟩ := resolve_bind_of_lost fun p meant => found ⟨p, meant⟩
    exact ⟨failed _, stays⟩

/-- Deleting what is there is removing it as a tree, under guard. -/
theorem deleteDirectory_of_present (meant : Means site t path p) (there : t.present p = .ok true) :
    deleteDirectory site path t = guarded "delete_directory" [path] (.bool false)
      (removeTree p >>= fun _ => pure (.bool true)) t := by
  unfold deleteDirectory
  rw [resolve_bind_of_means meant]
  unfold guarded
  rw [bind_apply, attempt_apply, ask_bind_of_ok there]
  rfl

/-- If nothing is known to be at the path, nothing is done. -/
theorem deleteDirectory_of_absent (meant : Means site t path p) (absent : t.present p ≠ .ok true) :
    (deleteDirectory site path t).world = t ∧
      ((deleteDirectory site path t).result = .ok (.bool true) → t.present p = .ok false) := by
  unfold deleteDirectory
  rw [resolve_bind_of_means meant, world_guarded]
  cases there : t.present p with
  | error f =>
    refine ⟨by rw [ask_bind_of_error there], fun yes => ?_⟩
    have done := done_of_guarded yes
    rw [ask_bind_of_error there] at done
    cases done
  | ok b =>
    cases b with
    | true => exact absurd there absent
    | false => exact ⟨by rw [ask_bind_of_ok there]; rfl, fun _ => rfl⟩

theorem deleteDirectory_of_lost (lost : ∀ p, ¬ Means site t path p) :
    (deleteDirectory site path t).result ≠ .ok (.bool true) ∧ (deleteDirectory site path t).world = t := by
  obtain ⟨failed, stays⟩ := resolve_bind_of_lost lost
  exact ⟨failed _, stays⟩

/-- Deleting changes nothing, or it takes away the directory right at the path, with what is in it. -/
theorem deleteDirectory_cases (meant : Means site t path p) :
    (deleteDirectory site path t).world = t ∧
        ((deleteDirectory site path t).result = .ok (.bool true) → t.present p = .ok false) ∨
      ∃ d, t.spot false p = .ok ⟨d, some .directory⟩ ∧ Pruned (d <+: ·) t (deleteDirectory site path t).world ∧
        ((deleteDirectory site path t).result = .ok (.bool true) →
          ∀ q, d <+: q → (deleteDirectory site path t).world.find? q = none) := by
  by_cases there : t.present p = .ok true
  · rw [deleteDirectory_of_present meant there, world_guarded, world_then_pure]
    rcases removeTree_cases (t := t) (p := p) with ⟨same, failed⟩ | ⟨d, leads, within, gone⟩
    · exact .inl ⟨same, fun yes => absurd (done_of_then_pure (done_of_guarded yes)) failed⟩
    · exact .inr ⟨d, leads, within, fun yes => gone (done_of_then_pure (done_of_guarded yes))⟩
  · exact .inl (deleteDirectory_of_absent meant there)

theorem deleteDirectory_inside (denoted : DenotesDirectory site t path d) :
    Pruned (d <+: ·) t (deleteDirectory site path t).world ∧
      ((deleteDirectory site path t).result = .ok (.bool true) →
        ∀ q, d <+: q → (deleteDirectory site path t).world.find? q = none) := by
  obtain ⟨p, meant, leads⟩ := denoted
  rcases deleteDirectory_cases meant with ⟨same, absent⟩ | ⟨d', found, within, gone⟩
  · rw [same]
    refine ⟨.refl _ _, fun yes => ?_⟩
    have no := absent yes
    rw [present_of_spot leads] at no
    cases no
  · have followed := spot_follow found (by simp)
    rw [leads] at followed
    cases followed
    exact ⟨within, gone⟩

theorem deleteDirectory_elsewhere (elsewhere : ∀ d, ¬ DenotesDirectory site t path d) :
    (deleteDirectory site path t).world = t := by
  by_cases found : ∃ p, Means site t path p
  · obtain ⟨p, meant⟩ := found
    rcases deleteDirectory_cases meant with ⟨same, -⟩ | ⟨d, leads, -, -⟩
    · exact same
    · exact absurd ⟨p, meant, spot_follow leads (by simp)⟩ (elsewhere d)
  · exact (deleteDirectory_of_lost fun p meant => found ⟨p, meant⟩).2

/-- What is said to be deleted is not there any more. -/
theorem deleteDirectory_gone (yes : (deleteDirectory site path t).result = .ok (.bool true)) :
    ∃ p, Means site t path p ∧ (deleteDirectory site path t).world.present p = .ok false := by
  by_cases found : ∃ p, Means site t path p
  · obtain ⟨p, meant⟩ := found
    refine ⟨p, meant, ?_⟩
    rcases deleteDirectory_cases meant with ⟨same, absent⟩ | ⟨d, leads, within, gone⟩
    · rw [same]
      exact absent yes
    · have below : d ≠ [] := by
        rintro rfl
        cases (find?_root _).symm.trans (gone yes [] List.prefix_rfl)
      exact present_of_gone below within.less (gone yes) (spot_follow leads (by simp))
  · exact absurd yes (deleteDirectory_of_lost fun p meant => found ⟨p, meant⟩).1

/-- A file, or a link to something that is there, is not deleted. -/
theorem deleteDirectory_refused {n : Node} (meant : Means site t path p) (there : t.present p = .ok true)
    (right : t.status false p = .ok n) (other : n ≠ .directory) :
    (deleteDirectory site path t).result ≠ .ok (.bool true) ∧ (deleteDirectory site path t).world = t := by
  rcases deleteDirectory_cases meant with ⟨same, absent⟩ | ⟨d, leads, -, -⟩
  · refine ⟨fun yes => ?_, same⟩
    rw [absent yes] at there
    cases there
  · rw [status_of_spot leads] at right
    exact absurd (Except.ok.inj right).symm other

/-- There is a file at a path, or a link to a directory. -/
def Undeletable (t : FileTree) (p : Path) : Prop :=
  (∃ bytes, t.status false p = .ok (.file bytes)) ∨
    (∃ target, t.status false p = .ok (.link target)) ∧ t.isDirectory p = .ok true

theorem present_of_undeletable (h : Undeletable t p) :
    t.present p = .ok true ∧ ∃ n, t.status false p = .ok n ∧ n ≠ .directory := by
  rcases h with ⟨bytes, found⟩ | ⟨⟨target, found⟩, leads⟩
  · obtain ⟨place, spotted⟩ := spot_of_status found
    exact ⟨present_of_spot (spot_follow spotted (by simp)), _, found, Node.noConfusion⟩
  · obtain ⟨⟨d, node⟩, spotted, rfl⟩ := spot_of_isDirectory leads
    exact ⟨present_of_spot spotted, _, found, Node.noConfusion⟩

/-- Clearing or deleting the directory that a path denotes takes away nodes inside the directory, deleting also the
directory itself, and does nothing else; so what links inside it lead to stays, wherever it lies outside. Answered with
yes, the cleared directory is there and empty, the deleted one is gone with all that was in it, and a path that was to
be deleted leads to nothing. Where the path denotes no directory nothing changes, and clearing is not answered with
yes; a file, or a link to a directory, is not deleted, and deleting is not answered with yes. -/
theorem removal_stays_inside (site : Site) (path : Value) {t : FileTree} (tree : IsTree t) :
    (∀ d, DenotesDirectory site t path d →
      Pruned (isInside · d = true) t (clearDirectory site path t).world ∧
      ((clearDirectory site path t).result = .ok (.bool true) →
        (clearDirectory site path t).world.find? d = some .directory ∧
          ∀ q, isInside q d = true → (clearDirectory site path t).world.find? q = none) ∧
      Pruned (d <+: ·) t (deleteDirectory site path t).world ∧
      ((deleteDirectory site path t).result = .ok (.bool true) →
        ∀ q, d <+: q → (deleteDirectory site path t).world.find? q = none)) ∧
    ((∀ d, ¬ DenotesDirectory site t path d) →
      (clearDirectory site path t).result ≠ .ok (.bool true) ∧ (clearDirectory site path t).world = t ∧
        (deleteDirectory site path t).world = t) ∧
    ((deleteDirectory site path t).result = .ok (.bool true) →
      ∃ p, Means site t path p ∧ (deleteDirectory site path t).world.present p = .ok false) ∧
    ∀ p, Means site t path p → Undeletable t p →
      (deleteDirectory site path t).result ≠ .ok (.bool true) ∧ (deleteDirectory site path t).world = t := by
  refine ⟨fun d denoted => ?_, fun elsewhere => ?_, deleteDirectory_gone, fun p meant refused => ?_⟩
  · obtain ⟨cleared, emptied⟩ := clearDirectory_inside tree denoted
    obtain ⟨deleted, gone⟩ := deleteDirectory_inside denoted
    exact ⟨cleared, emptied, deleted, gone⟩
  · obtain ⟨no, same⟩ := clearDirectory_elsewhere elsewhere
    exact ⟨no, same, deleteDirectory_elsewhere elsewhere⟩
  · obtain ⟨there, n, right, other⟩ := present_of_undeletable refused
    exact deleteDirectory_refused meant there right other

/-- Two directories: one with a file in it; the other with a link to the first, a link to itself, and a directory with a
link up. Beside them stands a link to the second one. -/
def knottedTree : FileTree :=
  ⟨[(["o"], .directory), (["o", "f"], .file [1]), (["d"], .directory), (["d", "out"], .link "../o"),
    (["d", "again"], .link "../d"), (["d", "s"], .directory), (["d", "s", "up"], .link ".."), (["l"], .link "d")]⟩

/-- Along the link beside it the second directory is emptied, though the links in it lead out of it and back to it; the
file outside stays. The link itself is not deleted, the directory is. -/
theorem removal_stays_inside_knotted :
    IsTree knottedTree ∧
      (clearDirectory filing.site (.text "l") knottedTree).result = .ok (.bool true) ∧
      (clearDirectory filing.site (.text "l") knottedTree).world.find? ["o", "f"] = some (.file [1]) ∧
      (∀ q, isInside q ["d"] = true → (clearDirectory filing.site (.text "l") knottedTree).world.find? q = none) ∧
      (deleteDirectory filing.site (.text "l") knottedTree).world = knottedTree ∧
      (deleteDirectory filing.site (.text "d") knottedTree).result = .ok (.bool true) ∧
      ∃ p, Means filing.site knottedTree (.text "d") p ∧
        (deleteDirectory filing.site (.text "d") knottedTree).world.present p = .ok false := by
  have tree : IsTree knottedTree := ⟨by decide, by decide⟩
  have meant : Means filing.site knottedTree (.text "l") ⟨"/", ["l"]⟩ :=
    ⟨by decide +kernel, ⟨"", ["l"]⟩, by decide +kernel, by decide +kernel⟩
  have linked : knottedTree.status false ⟨"/", ["l"]⟩ = .ok (.link "d") := by decide +kernel
  obtain ⟨inside, -, -, refused⟩ := removal_stays_inside filing.site (.text "l") tree
  obtain ⟨cleared, emptied, -, -⟩ := inside ["d"] ⟨_, meant, by decide +kernel⟩
  obtain ⟨-, -, gone, -⟩ := removal_stays_inside filing.site (.text "d") tree
  have yes : (clearDirectory filing.site (.text "l") knottedTree).result = .ok (.bool true) := by decide +kernel
  have deleted : (deleteDirectory filing.site (.text "d") knottedTree).result = .ok (.bool true) := by decide +kernel
  have apart : ¬ isInside ["o", "f"] ["d"] = true := by decide
  exact ⟨tree, yes, cleared.kept ["o", "f"] apart, (emptied yes).2,
    (refused _ meant (.inr ⟨⟨_, linked⟩, by decide +kernel⟩)).2, deleted, gone deleted⟩

end Files

end Stepwise
