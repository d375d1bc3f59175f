import Mathlib.Data.List.Basic
import Stepwise.Proofs.WrittenFiles

/-!
What a write leaves behind when it fails. Nothing that was there is changed or lost. Where directories are missing
above the path, those that could be made before the failure stay; and a text that cannot be encoded is found out only
when the file is open, and by then a file that was to be replaced has been emptied.
-/

namespace Stepwise

/-- The first path is the second one, or leads up from it. -/
def Path.UpFrom (p q : Path) : Prop := p.root = q.root ∧ p.parts <+: q.parts

theorem Path.upFrom_refl (p : Path) : p.UpFrom p := ⟨rfl, List.prefix_rfl⟩

theorem Path.upFrom_of_parent {p q : Path} (h : p.UpFrom q.parent) : p.UpFrom q :=
  ⟨h.1, h.2.trans q.parts.dropLast_prefix⟩

namespace FileTree

variable {t t' t'' : FileTree} {p : Path} {place q : Place} {n : Node}

theorem putEntry_self {es : List (Place × Node)} (found : (es.find? (·.1 == place)).map (·.2) = some n) :
    putEntry place n es = es := by
  induction es with
  | nil => cases found
  | cons e es ih =>
    by_cases here : e.1 = place
    · simp only [here, BEq.rfl, List.find?_cons_of_pos, Option.map_some, Option.some.injEq] at found
      rw [putEntry, if_pos here, ← here, ← found]
    · rw [putEntry, if_neg here, ih]
      simpa [List.find?_cons_of_neg, here] using found

/-- Putting what is there already changes nothing. -/
theorem put_self (below : place ≠ []) (found : t.find? place = some n) : t.put place n = t := by
  simp only [find?, List.isEmpty_iff, below, if_false] at found
  rw [put, putEntry_self found]

/-! Further directories. -/

/-- The second tree is the first one with further directories, each where a path that leads up from `p` leads to. -/
structure Broadened (p : Path) (t t' : FileTree) : Prop where
  kept : ∀ q n, t.find? q = some n → t'.find? q = some n
  made : ∀ q n, t'.find? q = some n → t.find? q = none →
    n = .directory ∧ ∃ p' : Path, p'.UpFrom p ∧ t'.spot true p' = .ok ⟨q, some .directory⟩

theorem Broadened.refl (p : Path) (t : FileTree) : Broadened p t t :=
  ⟨fun _ _ h => h, fun q n found none => by rw [found] at none; cases none⟩

theorem Broadened.retains (h : Broadened p t t') : Retains t t' :=
  ⟨fun place found => h.kept place _ found, fun place _ found => h.kept place _ found⟩

theorem Broadened.trans (h : Broadened p t t') (h' : Broadened p t' t'') : Broadened p t t'' := by
  refine ⟨fun q n found => h'.kept q n (h.kept q n found), fun q n found none => ?_⟩
  cases between : t'.find? q with
  | none => exact h'.made q n found between
  | some m =>
    obtain ⟨rfl, p', up, leads⟩ := h.made q m between none
    have same := h'.kept q _ between
    rw [found] at same
    exact ⟨Option.some.inj same, p', up, spot_later h'.retains leads (.inl rfl)⟩

theorem Broadened.of_parent (h : Broadened p.parent t t') : Broadened p t t' := by
  refine ⟨h.kept, fun q n found none => ?_⟩
  obtain ⟨directory, p', up, leads⟩ := h.made q n found none
  exact ⟨directory, p', Path.upFrom_of_parent up, leads⟩

theorem broadened_makeDirectory (h : t.makeDirectory p = .ok t') : Broadened p t t' := by
  have retains := retains_makeDirectory h
  unfold makeDirectory at h
  rcases found : t.spot false p with f | ⟨place, _ | n⟩
  · rw [found] at h
    cases h
  · rw [found] at h
    cases h
    have free : t.find? place = none := by
      rcases ends_of_spot found with directory | ⟨-, same, -⟩
      · cases directory
      · exact same
    have now : (t.put place .directory).find? place = some .directory := find?_put_self (by simp [free]) _
    refine ⟨fun q n there => ?_, fun q n there none => ?_⟩
    · rwa [find?_put_of_ne]
      rintro rfl
      rw [free] at there
      cases there
    · obtain rfl : q = place := by
        by_contra apart
        rw [find?_put_of_ne apart, none] at there
        cases there
      rw [now] at there
      have leads := spot_later retains (spot_follow found (by simp)) (.inr (by simp [now]))
      rw [Spot.later, if_neg (by simp), now] at leads
      exact ⟨(Option.some.inj there).symm, p, p.upFrom_refl, leads⟩
  · rw [found] at h
    cases h

/-- A directory that is there is not made again. -/
theorem makeDirectory_of_directory (there : t.isDirectory p = .ok true) :
    t.makeDirectory p = .error (.system ⟨.exists, [p.text]⟩) := by
  obtain ⟨⟨d, node⟩, leads, rfl⟩ := spot_of_isDirectory there
  obtain ⟨⟨place, node⟩, found⟩ := spot_unfollow leads
  unfold makeDirectory
  rw [found]
  cases node with
  | some n => rfl
  | none =>
    have same := spot_follow found (by simp)
    rw [leads] at same
    cases same

/-! Files. -/

/-- The trees differ at most at the place that the path leads to. -/
def SameBut (p : Path) (t t' : FileTree) : Prop :=
  ∃ s, t.spot true p = .ok s ∧ ∀ q, q ≠ s.place → t'.find? q = t.find? q

theorem sameBut_writeFile {change : List UInt8 → List UInt8} (h : t.writeFile p change = .ok t') : SameBut p t t' := by
  unfold writeFile at h
  rcases found : t.spot true p with f | ⟨place, node⟩
  · rw [found] at h
    cases h
  · rw [found] at h
    refine ⟨_, found, fun q apart => ?_⟩
    dsimp only at h
    split at h
    · cases h
    · cases h
      exact find?_put_of_ne apart
    · cases h
      exact find?_put_of_ne apart

/-- A file that can be read can be written. -/
theorem writeFile_of_readFile {bytes : List UInt8} (change : List UInt8 → List UInt8)
    (h : t.readFile p = .ok bytes) : ∃ t', t.writeFile p change = .ok t' := by
  unfold readFile at h
  cases found : t.status true p with
  | error f =>
    rw [found] at h
    cases h
  | ok n =>
    rw [found] at h
    cases n with
    | file bytes =>
      obtain ⟨place, leads⟩ := spot_of_status found
      exact ⟨t.put place (.file (change bytes)), by rw [writeFile, leads]⟩
    | directory => cases h
    | link target => cases h

/-- Opening a file that is there, and leaving its bytes as they are, changes nothing. -/
theorem writeFile_id (there : t.present p = .ok true) (h : t.writeFile p id = .ok t') : t' = t := by
  unfold writeFile at h
  rcases found : t.spot true p with f | ⟨place, node⟩
  · rw [found] at h
    cases h
  · rw [found] at h
    dsimp only at h
    cases node with
    | none =>
      unfold present question status at there
      rw [found] at there
      cases there
    | some n =>
      cases n with
      | directory => cases h
      | link target =>
        rcases ends_of_spot found with directory | ⟨-, -, followed⟩
        · cases directory
        · exact absurd rfl (followed rfl target)
      | file bytes =>
        cases h
        rcases ends_of_spot found with directory | ⟨-, same, -⟩
        · cases directory
        · refine put_self ?_ same
          rintro rfl
          cases (find?_root t).symm.trans same

end FileTree

namespace Files

open Act FileTree

variable {site : Site} {encoding path content : Value} {t t' t₁ t₂ : FileTree} {p : Path} {s : String} {f : Fault}

/-! Making directories. -/

theorem world_settle : (settle p f t).world = t := by
  unfold settle
  cases f.isSystem with
  | false => rfl
  | true =>
    rw [if_pos rfl]
    cases there : t.isDirectory p with
    | error g => rw [ask_bind_of_error there]
    | ok b =>
      rw [ask_bind_of_ok there]
      cases b with
      | false => rfl
      | true => rfl

/-- Where the directory is there already, nothing is made. -/
theorem makeAfter_of_directory (there : t.isDirectory p = .ok true) (above : Option (FileAct Unit)) :
    makeAfter p above t = ⟨.ok (), t, []⟩ := by
  have settled : settle p (.system ⟨.exists, [p.text]⟩) t = ⟨.ok (), t, []⟩ := by
    rw [settle, if_pos (by rfl), ask_bind_of_ok there]
    rfl
  rw [makeAfter, attempt_edit_bind_of_error (makeDirectory_of_directory there)]
  exact settled

theorem makeDirectories_of_directory (there : t.isDirectory p = .ok true) (n : ℕ) :
    makeDirectories n p t = ⟨.ok (), t, []⟩ := by
  cases n with
  | zero => exact makeAfter_of_directory there _
  | succ n => exact makeAfter_of_directory there _

/-- The work, begun in this tree, ends in such a way. -/
def Reaches (m : FileAct Unit) (t : FileTree) (post : Except Fault Unit → FileTree → Prop) : Prop :=
  post (m t).result (m t).world

section Making

variable {post : Except Fault Unit → FileTree → Prop} {above : Option (FileAct Unit)}

theorem Reaches.of_eq {m m' : FileAct Unit} (same : m t = m' t') (h : Reaches m' t' post) : Reaches m t post := by
  unfold Reaches
  rw [same]
  exact h

theorem reaches_settle (stays : ∀ r, post r t) : Reaches (settle p f) t post := by
  unfold Reaches
  rw [world_settle]
  exact stays _

/-- Making a directory ends with the directory made, at once or after those above it; or it changes nothing more than
making those above it does. -/
theorem reaches_makeAfter (made : ∀ t', t.makeDirectory p = .ok t' → post (.ok ()) t') (stays : ∀ r, post r t)
    (above_stays : ∀ make, above = some make → ∀ r, post r (make t).world)
    (above_made : ∀ make, above = some make → ∀ t', (make t).world.makeDirectory p = .ok t' → post (.ok ()) t') :
    Reaches (makeAfter p above) t post := by
  unfold makeAfter
  cases first : t.makeDirectory p with
  | ok t' => exact .of_eq (attempt_edit_bind_of_ok first) (made t' first)
  | error f =>
    refine .of_eq (attempt_edit_bind_of_error first) ?_
    split
    · next done => cases done
    · next make _ =>
      have stopped := above_stays make rfl
      have finished := above_made make rfl
      rcases ended : make t with ⟨g | u, t₁, log⟩
      · rw [ended] at stopped
        unfold Reaches
        rw [bind_of_error ended]
        exact stopped _
      · -- The directories above are made, so this one is tried again.
        rw [ended] at stopped finished
        have later {m : FileAct Unit} (h : Reaches m t₁ post) : Reaches (make >>= fun _ => m) t post := by
          unfold Reaches
          rw [bind_of_ok ended]
          exact h
        refine later ?_
        cases again : t₁.makeDirectory p with
        | ok t₂ => exact .of_eq (attempt_edit_bind_of_ok again) (finished t₂ again)
        | error g => exact .of_eq (attempt_edit_bind_of_error again) (reaches_settle stopped)
    · exact stays _
    · exact reaches_settle stays

end Making

/-- Directories are made along a path; if this fails, only above the last one. -/
theorem broadened_makeDirectories (n : ℕ) :
    Reaches (makeDirectories n p) t fun r t' => Broadened p t t' ∧ (r ≠ .ok () → Broadened p.parent t t') := by
  induction n generalizing p with
  | zero =>
    exact reaches_makeAfter (fun t' made => ⟨broadened_makeDirectory made, fun failed => absurd rfl failed⟩)
      (fun r => ⟨.refl _ _, fun _ => .refl _ _⟩) (fun make none => by cases none) (fun make none => by cases none)
  | succ n ih =>
    refine reaches_makeAfter (fun t' made => ⟨broadened_makeDirectory made, fun failed => absurd rfl failed⟩)
      (fun r => ⟨.refl _ _, fun _ => .refl _ _⟩) (fun make same r => ?_) (fun make same t' made => ?_)
    · cases same
      exact ⟨ih.1.of_parent, fun _ => ih.1⟩
    · -- Once the directory itself is made, there is no failure any more.
      cases same
      exact ⟨ih.1.of_parent.trans (broadened_makeDirectory made), fun failed => absurd rfl failed⟩

/-- Where the directory above is there already, it is this directory or nothing that is made. -/
theorem makeDirectories_of_parent (there : t.isDirectory p.parent = .ok true) (n : ℕ) :
    Reaches (makeDirectories n p) t fun r t' => r ≠ .ok () → t' = t := by
  cases n with
  | zero =>
    exact reaches_makeAfter (fun t' made failed => absurd rfl failed) (fun r _ => rfl)
      (fun make none => by cases none) (fun make none => by cases none)
  | succ n =>
    refine reaches_makeAfter (fun t' made failed => absurd rfl failed) (fun r _ => rfl) (fun make same r _ => ?_)
      (fun make same t' made failed => absurd rfl failed)
    cases same
    rw [makeDirectories_of_directory there]

/-! Writing texts. -/

/-- A text that cannot be written under an encoding, though the encoding has a name. -/
inductive Uncodable (encoding : Value) (s : String) : Prop
  | unknown {name : String} {f : Fault} (named : encodingName encoding = .ok name)
      (unknown : encodingOf name = .error f) : Uncodable encoding s
  | lacking {name : String} {e : Text.Encoding} {g : Text.CodingError} (named : encodingName encoding = .ok name)
      (known : encodingOf name = .ok e) (lack : e.encode true s.toList = .error g) : Uncodable encoding s

/-- If a text is not written, nothing has changed, or it cannot be encoded; then the file has been opened. -/
theorem writeText_cases (encoding : Value) (p : Path) (s : String) (t : FileTree) :
    (writeText encoding p s t).result = .ok () ∨ (writeText encoding p s t).world = t ∨
      Uncodable encoding s ∧ SameBut p t (writeText encoding p s t).world := by
  unfold writeText
  cases named : encodingName encoding with
  | error f => exact .inr (.inl rfl)
  | ok name =>
    rw [ofExcept_bind_ok]
    cases opened : t.writeFile p fun _ => [] with
    | error f =>
      rw [edit_bind_of_error opened]
      exact .inr (.inl rfl)
    | ok t₁ =>
      have apart := sameBut_writeFile opened
      rw [edit_bind_of_ok opened]
      cases known : encodingOf name with
      | error f => exact .inr (.inr ⟨.unknown named known, apart⟩)
      | ok e =>
        rw [ofExcept_bind_ok]
        cases coded : e.encode true s.toList with
        | error g => exact .inr (.inr ⟨.lacking named known coded, apart⟩)
        | ok bytes =>
          -- What was opened can be written.
          obtain ⟨-, old, read, -⟩ := readFile_of_writeFile opened
          obtain ⟨t₂, written⟩ := writeFile_of_readFile (fun _ => bytes) read
          rw [Except.mapError, ofExcept_bind_ok, edit_of_ok written]
          exact .inl rfl

/-- If a text is not added to what is there, nothing has changed. -/
theorem appendText_cases (encoding : Value) (s : String) (there : t.present p = .ok true) :
    (appendText encoding p s t).result = .ok () ∨ (appendText encoding p s t).world = t := by
  unfold appendText
  cases named : encodingName encoding with
  | error f => exact .inr rfl
  | ok name =>
    rw [ofExcept_bind_ok]
    cases opened : t.writeFile p id with
    | error f =>
      rw [edit_bind_of_error opened]
      exact .inr rfl
    | ok t₁ =>
      obtain ⟨-, old, read, -⟩ := readFile_of_writeFile opened
      rw [edit_bind_of_ok opened]
      obtain rfl := writeFile_id there opened
      cases known : encodingOf name with
      | error f => exact .inr rfl
      | ok e =>
        rw [ofExcept_bind_ok, ask_bind_of_ok read]
        cases coded : e.encode (id old).isEmpty s.toList with
        | error g => exact .inr rfl
        | ok bytes =>
          obtain ⟨t₂, written⟩ := writeFile_of_readFile (fun before => before ++ bytes) read
          rw [Except.mapError, ofExcept_bind_ok, edit_of_ok written]
          exact .inl rfl

/-! Calls. -/

/-- The second tree is the first one; or the directory above the path is missing, and the second tree has further
directories there. -/
def Widened (site : Site) (path : Value) (t t' : FileTree) : Prop :=
  t' = t ∨ ∃ p, Means site t path p ∧ t.isDirectory p.parent ≠ .ok true ∧ Broadened p.parent t t'

/-- The second tree is the first one; or the text cannot be encoded, and the trees differ at most where the path leads
to. -/
def Spared (site : Site) (encoding path : Value) (s : String) (t t' : FileTree) : Prop :=
  t' = t ∨ Uncodable encoding s ∧ ∃ p, Means site t path p ∧ SameBut p t t'

theorem appendToFile_failed (failed : (appendToFile site encoding path content t).result ≠ .ok (.bool true)) :
    (appendToFile site encoding path content t).world = t := by
  unfold appendToFile at failed ⊢
  by_cases found : ∃ p, Means site t path p
  · obtain ⟨p, meant⟩ := found
    rw [resolve_bind_of_means meant] at failed ⊢
    cases there : t.present p with
    | error f => rw [ask_bind_of_error there]
    | ok b =>
      rw [ask_bind_of_ok there] at failed ⊢
      cases b with
      | false => rfl
      | true =>
        rw [if_pos rfl] at failed ⊢
        rw [world_guarded, world_then_pure]
        rcases appendText_cases encoding content.display there with done | same
        · exact absurd (guarded_of_ok (then_pure_of_ok done)) failed
        · exact same
  · exact (resolve_bind_of_lost fun p meant => found ⟨p, meant⟩).2

theorem modifyFile_failed (failed : (modifyFile site encoding path content t).result ≠ .ok (.bool true)) :
    Spared site encoding path content.display t (modifyFile site encoding path content t).world := by
  unfold modifyFile at failed ⊢
  by_cases found : ∃ p, Means site t path p
  · obtain ⟨p, meant⟩ := found
    rw [resolve_bind_of_means meant] at failed ⊢
    cases there : t.present p with
    | error f =>
      rw [ask_bind_of_error there]
      exact .inl rfl
    | ok b =>
      rw [ask_bind_of_ok there] at failed ⊢
      cases b with
      | false => exact .inl rfl
      | true =>
        rw [if_pos rfl] at failed ⊢
        rw [world_guarded, world_then_pure]
        rcases writeText_cases encoding p content.display t with done | same | ⟨uncodable, apart⟩
        · exact absurd (guarded_of_ok (then_pure_of_ok done)) failed
        · exact .inl same
        · exact .inr ⟨uncodable, p, meant, apart⟩
  · exact .inl (resolve_bind_of_lost fun p meant => found ⟨p, meant⟩).2

/-- Making directories that fails leaves some of those above the path. -/
theorem widened_makeAll (meant : Means site t path p) (failed : (makeAll p t).result ≠ .ok ()) :
    Widened site path t (makeAll p t).world := by
  by_cases there : t.isDirectory p.parent = .ok true
  · exact .inl (makeDirectories_of_parent there _ failed)
  · exact .inr ⟨p, meant, there, (broadened_makeDirectories _).2 failed⟩

/-- Making the directories above a path. -/
theorem widened_makeAll_parent (meant : Means site t path p) : Widened site path t (makeAll p.parent t).world := by
  by_cases there : t.isDirectory p.parent = .ok true
  · rw [makeAll, makeDirectories_of_directory there]
    exact .inl rfl
  · exact .inr ⟨p, meant, there, (broadened_makeDirectories _).1⟩

theorem Widened.means (h : Widened site path t t') (meant : Means site t path p) : Means site t' path p := by
  rcases h with rfl | ⟨_, -, -, broadened⟩
  · exact meant
  · exact meant.later broadened.retains

theorem createDirectory_failed (failed : (createDirectory site path t).result ≠ .ok (.bool true)) :
    Widened site path t (createDirectory site path t).world := by
  unfold createDirectory at failed ⊢
  rw [world_guarded]
  by_cases found : ∃ p, Means site t path p
  · obtain ⟨p, meant⟩ := found
    have undone : (makeAll p t).result ≠ .ok () := by
      intro done
      refine failed (guarded_of_ok ?_)
      rw [resolve_bind_of_means meant]
      exact then_pure_of_ok done
    rw [resolve_bind_of_means meant, world_then_pure]
    exact widened_makeAll meant undone
  · exact .inl (resolve_bind_of_lost fun p meant => found ⟨p, meant⟩).2

theorem createFile_failed (failed : (createFile site encoding path content t).result ≠ .ok (.bool true)) :
    ∃ t₁, Widened site path t t₁ ∧
      Spared site encoding path content.display t₁ (createFile site encoding path content t).world := by
  unfold createFile at failed ⊢
  rw [world_guarded]
  by_cases found : ∃ p, Means site t path p
  · obtain ⟨p, meant⟩ := found
    have undone := fun done => failed (guarded_of_ok done)
    rw [resolve_bind_of_means meant] at undone ⊢
    have widened := widened_makeAll_parent meant
    rcases ended : makeAll p.parent t with ⟨f | u, t₁, log⟩
    · rw [ended] at widened
      rw [bind_of_error ended]
      exact ⟨_, widened, .inl rfl⟩
    · rw [ended] at widened
      rw [bind_of_ok ended] at undone ⊢
      dsimp only [after] at undone ⊢
      rw [world_then_pure]
      refine ⟨t₁, widened, ?_⟩
      rcases writeText_cases encoding p content.display t₁ with done | same | ⟨uncodable, apart⟩
      · exact absurd (then_pure_of_ok done) undone
      · exact .inl same
      · exact .inr ⟨uncodable, p, widened.means meant, apart⟩
  · exact ⟨t, .inl rfl, .inl (resolve_bind_of_lost fun p meant => found ⟨p, meant⟩).2⟩

/-- One file. -/
def singleTree : FileTree := ⟨[(["f"], .file [120])]⟩

end Files

end Stepwise
