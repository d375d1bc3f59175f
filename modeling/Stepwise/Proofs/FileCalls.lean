import Mathlib.Data.List.Basic
import Stepwise.Proofs.FileAnswers

/-!
The law of the file capabilities. In whatever tree calls have left, a call either has an answer of the kind that
its capability promises or passes on one of the faults that are told apart here; and it passes each of them on
whenever its reason is there.
-/

namespace Stepwise.Files

open Act FileTree

/-- A call of a file capability. -/
inductive FileCall
  | createFile (path content : Value)
  | createDirectory (path : Value)
  | modifyFile (path content : Value)
  | readFile (path : Value)
  | appendToFile (path content : Value)
  | fileExists (path : Value)
  | deleteFile (path : Value)
  | deleteDirectory (path : Value)
  | rename (old new : Value)
  | moveFile (source destination : Value)
  | getFileInfo (path : Value)
  | getFileNameList (path : Value)
  | clearDirectory (path : Value)

namespace FileCall

/-- The capability that is called. -/
def builtin : FileCall → Builtin
  | createFile _ _ => .createFile
  | createDirectory _ => .createDirectory
  | modifyFile _ _ => .modifyFile
  | readFile _ => .readFile
  | appendToFile _ _ => .appendToFile
  | fileExists _ => .fileExists
  | deleteFile _ => .deleteFile
  | deleteDirectory _ => .deleteDirectory
  | rename _ _ => .rename
  | moveFile _ _ => .moveFile
  | getFileInfo _ => .getFileInfo
  | getFileNameList _ => .getFileNameList
  | clearDirectory _ => .clearDirectory

/-- The arguments of the call. -/
def args : FileCall → List Value
  | createFile path content => [path, content]
  | createDirectory path => [path]
  | modifyFile path content => [path, content]
  | readFile path => [path]
  | appendToFile path content => [path, content]
  | fileExists path => [path]
  | deleteFile path => [path]
  | deleteDirectory path => [path]
  | rename old new => [old, new]
  | moveFile source destination => [source, destination]
  | getFileInfo path => [path]
  | getFileNameList path => [path]
  | clearDirectory path => [path]

/-- The work of the call. -/
def act (site : Site) (encoding : Value) : FileCall → FileAct Value
  | createFile path content => Files.createFile site encoding path content
  | createDirectory path => Files.createDirectory site path
  | modifyFile path content => Files.modifyFile site encoding path content
  | readFile path => Files.readFile site encoding path
  | appendToFile path content => Files.appendToFile site encoding path content
  | fileExists path => Files.fileExists site path
  | deleteFile path => Files.deleteFile site path
  | deleteDirectory path => Files.deleteDirectory site path
  | rename old new => Files.rename site old new
  | moveFile source destination => Files.moveFile site source destination
  | getFileInfo path => Files.getFileInfo site path
  | getFileNameList path => Files.getFileNameList site path
  | clearDirectory path => Files.clearDirectory site path

/-- A call of the toolbox with these arguments does the work on the files of the world. -/
theorem call_eq {σ : Type} (e : Engine σ) (outputs : Outputs) (c : FileCall) :
    Toolbox.call e outputs c.builtin c.args = Toolbox.onFiles e (c.act e.site e.settings.fileEncoding) := by
  cases c <;> rfl

/-- What a call promises to answer: yes or no; a text or nothing; a description of six parts or nothing; or a
list of names. -/
def Promises : FileCall → Value → Prop
  | readFile _, v => v = .null ∨ ∃ s, v = .text s
  | getFileInfo _, v => v = .null ∨ ∃ members, v = .object members ∧
      members.map Prod.fst = ["path", "size", "mtime", "ctime", "is_file", "is_directory"]
  | getFileNameList _, v => ∃ names : List String, v = .list (names.map .text)
  | _, v => ∃ b, v = .bool b

/-- The faults that a call passes on in a tree. -/
def PassesOn (site : Site) (encoding : Value) (t : FileTree) : FileCall → Fault → Prop
  | createFile path content, f =>
    Homeless site t path f ∨ ∃ p, Means site t path p ∧
      (p.parent.hasNull = true ∧ f = nullByte ∨
        ∃ t', Gives (makeAll p.parent) t () t' ∧ Unreplaced encoding t' p content.display f)
  | createDirectory path, f | deleteFile path, f =>
    Homeless site t path f ∨ ∃ p, Means site t path p ∧ p.hasNull = true ∧ f = nullByte
  | modifyFile path content, f =>
    Lost site t path f ∨ ∃ p, Means site t path p ∧
      (TooLong t p f ∨ t.present p = .ok true ∧ Unreplaced encoding t p content.display f)
  | readFile path, f =>
    Lost site t path f ∨ ∃ p, Means site t path p ∧
      (TooLong t p f ∨ t.present p = .ok true ∧ Unread encoding t p f)
  | appendToFile path content, f =>
    Lost site t path f ∨ ∃ p, Means site t path p ∧
      (TooLong t p f ∨ t.present p = .ok true ∧ Unadded encoding t p content.display f)
  | fileExists path, f | getFileNameList path, f | clearDirectory path, f =>
    Lost site t path f ∨ ∃ p, Means site t path p ∧ TooLong t p f
  | deleteDirectory path, f => Lost site t path f
  | rename old new, f =>
    Lost site t old f ∨ ∃ p, Means site t old p ∧ t.present p = .ok true ∧
      (Homeless site t new f ∨ ∃ q, Means site t new q ∧ q.hasNull = true ∧ f = nullByte)
  | moveFile source destination, f =>
    Lost site t source f ∨ ∃ p, Means site t source p ∧
      (Lost site t destination f ∨ ∃ q, Means site t destination q ∧ f = nullByte ∧
        (q.parent.hasNull = true ∨ q.hasNull = true ∧
          ∃ t', Gives (makeAll q.parent) t () t' ∧ t'.present p = .ok true))
  | getFileInfo path, f =>
    Lost site t path f ∨ ∃ p, Means site t path p ∧ p.hasNull = true ∧ f = nullByte

end FileCall

variable {site : Site} {encoding : Value} {t t' : FileTree} {p q : Path} {f : Fault}

/-! The faults of each capability. -/

theorem raises_createFile {path content : Value} :
    Raises (createFile site encoding path content) t f ↔
      (FileCall.createFile path content).PassesOn site encoding t f := by
  unfold createFile
  rw [raises_guarded, passes_resolve_bind]
  refine or_congr_right (exists_congr fun p => and_congr_right fun _ => ?_)
  simp only [passes_bind, passes_makeAll, passes_writeText, passes_pure, and_false, exists_false, or_false,
    Unique.exists_iff]

theorem raises_createDirectory {path : Value} :
    Raises (createDirectory site path) t f ↔
      (FileCall.createDirectory path).PassesOn site encoding t f := by
  unfold createDirectory
  rw [raises_guarded, passes_resolve_bind]
  refine or_congr_right (exists_congr fun p => and_congr_right fun _ => ?_)
  simp only [passes_bind, passes_makeAll, passes_pure, and_false, exists_false, or_false]

theorem raises_modifyFile {path content : Value} :
    Raises (modifyFile site encoding path content) t f ↔
      (FileCall.modifyFile path content).PassesOn site encoding t f := by
  unfold modifyFile
  rw [raises_resolve_bind]
  refine or_congr_right (exists_congr fun p => and_congr_right fun _ => ?_)
  rw [raises_probe, present_error, raises_guarded]
  simp only [passes_bind, passes_writeText, passes_pure, and_false, exists_false, or_false]

theorem raises_readFile {path : Value} :
    Raises (readFile site encoding path) t f ↔ (FileCall.readFile path).PassesOn site encoding t f := by
  unfold readFile
  rw [raises_resolve_bind]
  refine or_congr_right (exists_congr fun p => and_congr_right fun _ => ?_)
  rw [raises_probe, present_error]
  refine or_congr_right (and_congr_right fun there => ?_)
  rw [← passes_readText (clear_of_question there), raises_attempt_bind]
  unfold Passes
  cases ended : (readText encoding p t).result with
  | ok s =>
    constructor
    · intro raised
      exact (raises_pure.mp raised).elim
    · rintro ⟨⟨raised, -⟩, -⟩
      cases ended.symm.trans raised
  | error g =>
    -- bytes that are refused at a known position count as an error of the file system
    split
    · next s no => cases no
    · next s same =>
      cases same
      rw [raises_guarded]
      constructor
      · intro passed
        exact absurd passed (mild_fail rfl).not_passes
      · rintro ⟨⟨raised, -⟩, whole⟩
        cases ended.symm.trans raised
        exact absurd rfl (whole s)
    · next g' whole same =>
      cases same
      rw [raises_guarded]
      constructor
      · rintro ⟨raised, other⟩
        cases raises_fail.mp raised
        exact ⟨⟨ended, other⟩, whole⟩
      · rintro ⟨⟨raised, other⟩, -⟩
        cases ended.symm.trans raised
        exact ⟨raises_fail.mpr rfl, other⟩

theorem raises_appendToFile {path content : Value} :
    Raises (appendToFile site encoding path content) t f ↔
      (FileCall.appendToFile path content).PassesOn site encoding t f := by
  unfold appendToFile
  rw [raises_resolve_bind]
  refine or_congr_right (exists_congr fun p => and_congr_right fun _ => ?_)
  rw [raises_probe, present_error, raises_guarded]
  simp only [passes_bind, passes_appendText, passes_pure, and_false, exists_false, or_false]

theorem raises_fileExists {path : Value} :
    Raises (fileExists site path) t f ↔ (FileCall.fileExists path).PassesOn site encoding t f := by
  unfold fileExists
  rw [raises_resolve_bind]
  refine or_congr_right (exists_congr fun p => and_congr_right fun _ => ?_)
  simp only [raises_bind, raises_ask, present_error, raises_pure, and_false, exists_false, or_false]

theorem raises_deleteFile {path : Value} :
    Raises (deleteFile site path) t f ↔ (FileCall.deleteFile path).PassesOn site encoding t f := by
  unfold deleteFile
  rw [raises_guarded, passes_resolve_bind]
  refine or_congr_right (exists_congr fun p => and_congr_right fun _ => ?_)
  refine passes_iff_null (fun null => ?_) fun clear => ?_
  · have refused : (edit (fun t => t.removeFile p) t).result = .error nullByte :=
      raises_edit.mpr (removeFile_of_null null)
    rw [raises_attempt_bind, refused]
    exact raises_fail
  · refine mild_bind mild_attempt fun r t' given => ?_
    split
    · exact mild_pure _
    · exact mild_pure _
    · exact mild_fail ((mild_edit (onlySystem_removeFile clear)).of_attempt given)

theorem raises_deleteDirectory {path : Value} :
    Raises (deleteDirectory site path) t f ↔
      (FileCall.deleteDirectory path).PassesOn site encoding t f := by
  unfold deleteDirectory
  rw [raises_resolve_bind]
  refine or_iff_left ?_
  rintro ⟨p, -, raised⟩
  rw [raises_guarded] at raised
  dsimp only at raised
  obtain ⟨there, passed⟩ := passes_probe.mp raised
  refine (mild_bind (mild_removeTree (clear_of_question there)) fun _ t' _ => ?_).not_passes passed
  exact mild_pure _

theorem raises_rename {old new : Value} :
    Raises (rename site old new) t f ↔ (FileCall.rename old new).PassesOn site encoding t f := by
  unfold rename
  rw [raises_resolve_bind]
  refine or_congr_right (exists_congr fun p => and_congr_right fun _ => ?_)
  rw [raises_guarded]
  refine passes_probe.trans (and_congr_right fun there => ?_)
  have clear := clear_of_question there
  rw [passes_resolve_bind]
  refine or_congr_right (exists_congr fun q => and_congr_right fun _ => ?_)
  simp only [passes_bind, passes_pure, and_false, exists_false, or_false]
  refine passes_iff_null (fun null => ?_) fun clear' => ?_
  · rw [raises_edit, rename_of_null null, Except.error.injEq, eq_comm]
  · exact mild_edit (onlySystem_rename clear clear')

theorem raises_moveFile {source destination : Value} :
    Raises (moveFile site source destination) t f ↔
      (FileCall.moveFile source destination).PassesOn site encoding t f := by
  unfold moveFile
  rw [raises_resolve_bind]
  refine or_congr_right (exists_congr fun p => and_congr_right fun _ => ?_)
  rw [raises_resolve_bind]
  refine or_congr_right (exists_congr fun q => and_congr_right fun _ => ?_)
  have moved (t' : FileTree) : Passes
      (ask (fun t => t.present p) >>= fun b =>
        if b = true then moveNode p q >>= fun _ => pure (Value.bool true)
        else pure (Value.bool true)) t' f ↔
      t'.present p = .ok true ∧ q.hasNull = true ∧ f = nullByte := by
    refine passes_probe.trans (and_congr_right fun there => ?_)
    simp only [passes_bind, passes_moveNode (clear_of_question there), passes_pure, and_false, exists_false,
      or_false]
  rw [raises_guarded, passes_bind, passes_makeAll]
  constructor
  · rintro (⟨null, rfl⟩ | ⟨_, t', made, passed⟩)
    · exact ⟨rfl, .inl null⟩
    · obtain ⟨there, null, rfl⟩ := (moved t').mp passed
      exact ⟨rfl, .inr ⟨null, t', made, there⟩⟩
  · rintro ⟨rfl, null | ⟨null, t', made, there⟩⟩
    · exact .inl ⟨null, rfl⟩
    · exact .inr ⟨(), t', made, (moved t').mpr ⟨there, null, rfl⟩⟩

theorem raises_getFileInfo {path : Value} :
    Raises (getFileInfo site path) t f ↔ (FileCall.getFileInfo path).PassesOn site encoding t f := by
  unfold getFileInfo
  rw [raises_resolve_bind]
  refine or_congr_right (exists_congr fun p => and_congr_right fun _ => ?_)
  rw [raises_attempt_bind]
  have asked : (ask (fun t => t.status true p) t).result = t.status true p := rfl
  rw [asked]
  cases found : t.status true p with
  | ok n =>
    constructor
    · intro raised
      exact (raises_pure.mp raised).elim
    · rintro ⟨null, -⟩
      cases (status_of_null null).symm.trans found
  | error g =>
    dsimp only
    cases null : p.hasNull with
    | true =>
      cases (status_of_null null).symm.trans found
      have other : ¬ nullByte.isSystem = true := Bool.false_ne_true
      rw [if_neg other, raises_fail]
      exact (and_iff_right rfl).symm
    | false =>
      rw [if_pos (onlySystem_status null g found)]
      constructor
      · intro raised
        exact (raises_pure.mp raised).elim
      · rintro ⟨no, -⟩
        cases no

theorem raises_getFileNameList {path : Value} :
    Raises (getFileNameList site path) t f ↔
      (FileCall.getFileNameList path).PassesOn site encoding t f := by
  unfold getFileNameList
  rw [raises_resolve_bind]
  refine or_congr_right (exists_congr fun p => and_congr_right fun _ => ?_)
  rw [raises_probe, isDirectory_error, raises_guarded]
  refine or_iff_left ?_
  rintro ⟨there, passed⟩
  have clear := clear_of_question there
  exact (mild_bind (mild_ask (onlySystem_list clear)) fun _ _ _ => mild_pure _).not_passes passed

theorem list_names {names : List String} (h : t.list p = .ok names) (proper : Proper t) :
    ∀ name ∈ names, ClearName name := by
  unfold FileTree.list at h
  split at h
  · cases h
  · split at h
    · cases h
      exact proper.of_names
    · cases h
    · cases h

/-- The names in a proper tree can be appended to a path without a null character. -/
theorem raises_clearDirectory {path : Value} (proper : Proper t) :
    Raises (clearDirectory site path) t f ↔
      (FileCall.clearDirectory path).PassesOn site encoding t f := by
  unfold clearDirectory
  rw [raises_resolve_bind]
  refine or_congr_right (exists_congr fun p => and_congr_right fun _ => ?_)
  rw [raises_probe, isDirectory_error, raises_guarded]
  refine or_iff_left ?_
  rintro ⟨there, passed⟩
  have clear := clear_of_question there
  refine (mild_bind (mild_ask (onlySystem_list clear)) fun names t' given => ?_).not_passes passed
  obtain ⟨listed, rfl⟩ := gives_ask.mp given
  exact mild_bind (mild_removeEntries clear (list_names listed proper)) fun _ _ _ => mild_pure _

/-- The faults of a call in a proper tree are those that are told of it. -/
theorem FileCall.raises_act (proper : Proper t) (c : FileCall) :
    Raises (c.act site encoding) t f ↔ c.PassesOn site encoding t f := by
  cases c with
  | createFile path content => exact raises_createFile
  | createDirectory path => exact raises_createDirectory
  | modifyFile path content => exact raises_modifyFile
  | readFile path => exact raises_readFile
  | appendToFile path content => exact raises_appendToFile
  | fileExists path => exact raises_fileExists
  | deleteFile path => exact raises_deleteFile
  | deleteDirectory path => exact raises_deleteDirectory
  | rename old new => exact raises_rename
  | moveFile source destination => exact raises_moveFile
  | getFileInfo path => exact raises_getFileInfo
  | getFileNameList path => exact raises_getFileNameList
  | clearDirectory path => exact raises_clearDirectory proper

/-! The answers. -/

/-- Whatever the work gives is an answer of this kind. -/
def Answers (kind : Value → Prop) (m : FileAct Value) : Prop := ∀ t v t', Gives m t v t' → kind v

section Kinds

variable {kind : Value → Prop} {α : Type}

theorem answers_pure {v : Value} (h : kind v) : Answers kind (pure v) := by
  intro t w t' given
  rw [(gives_pure.mp given).1]
  exact h

theorem answers_fail {g : Fault} : Answers kind (Act.fail g) := by
  intro t v t' given
  exact (gives_fail.mp given).elim

theorem answers_bind {m : FileAct α} {k : α → FileAct Value} (h : ∀ a, Answers kind (k a)) :
    Answers kind (m >>= k) := by
  intro t v t' given
  obtain ⟨a, t'', -, later⟩ := gives_bind.mp given
  exact h a t'' v t' later

theorem answers_ite {c : Bool} {yes no : FileAct Value} (h : Answers kind yes) (h' : Answers kind no) :
    Answers kind (if c = true then yes else no) := by
  cases c with
  | true => exact h
  | false => exact h'

theorem answers_guarded {name : String} {subject : List Value} {answer : Value} {m : FileAct Value}
    (stands : kind answer) (h : Answers kind m) : Answers kind (guarded name subject answer m) := by
  intro t v t' given
  rcases gives_guarded given with rfl | given
  · exact stands
  · exact h t v t' given

end Kinds

/-- Every answer is of the kind that the call promises. -/
theorem FileCall.promises_act (c : FileCall) : Answers c.Promises (c.act site encoding) := by
  have verdict (b : Bool) : ∃ b', Value.bool b = .bool b' := ⟨b, rfl⟩
  cases c with
  | createFile path content =>
    exact answers_guarded (verdict false) (answers_bind fun p => answers_bind fun _ => answers_bind fun _ =>
      answers_pure (verdict true))
  | createDirectory path =>
    exact answers_guarded (verdict false) (answers_bind fun p => answers_bind fun _ =>
      answers_pure (verdict true))
  | modifyFile path content =>
    refine answers_bind fun p => answers_bind fun there => answers_ite ?_ (answers_pure (verdict false))
    exact answers_guarded (verdict false) (answers_bind fun _ => answers_pure (verdict true))
  | readFile path =>
    have nothing : (FileCall.readFile path).Promises .null := .inl rfl
    refine answers_bind fun p => answers_bind fun there => answers_ite ?_ (answers_pure nothing)
    refine answers_bind fun r => ?_
    split
    · next s => exact answers_pure (.inr ⟨s, rfl⟩)
    · exact answers_guarded nothing answers_fail
    · exact answers_guarded nothing answers_fail
  | appendToFile path content =>
    refine answers_bind fun p => answers_bind fun there => answers_ite ?_ (answers_pure (verdict false))
    exact answers_guarded (verdict false) (answers_bind fun _ => answers_pure (verdict true))
  | fileExists path => exact answers_bind fun p => answers_bind fun there => answers_pure (verdict there)
  | deleteFile path =>
    refine answers_guarded (verdict false) (answers_bind fun p => answers_bind fun r => ?_)
    split
    · exact answers_pure (verdict true)
    · exact answers_pure (verdict true)
    · exact answers_fail
  | deleteDirectory path =>
    refine answers_bind fun p => answers_guarded (verdict false) (answers_bind fun there => ?_)
    exact answers_ite (answers_bind fun _ => answers_pure (verdict true)) (answers_pure (verdict true))
  | rename old new =>
    refine answers_bind fun p => answers_guarded (verdict false) (answers_bind fun there => ?_)
    exact answers_ite (answers_bind fun q => answers_bind fun _ => answers_pure (verdict true))
      (answers_pure (verdict true))
  | moveFile source destination =>
    refine answers_bind fun p => answers_bind fun q => answers_guarded (verdict false) ?_
    refine answers_bind fun _ => answers_bind fun there => ?_
    exact answers_ite (answers_bind fun _ => answers_pure (verdict true)) (answers_pure (verdict true))
  | getFileInfo path =>
    refine answers_bind fun p => answers_bind fun r => ?_
    split
    · exact answers_pure (.inr ⟨_, rfl, rfl⟩)
    · exact answers_ite (answers_pure (.inl rfl)) answers_fail
  | getFileNameList path =>
    refine answers_bind fun p => answers_bind fun there => answers_ite ?_ (answers_pure ⟨[], rfl⟩)
    exact answers_guarded ⟨[], rfl⟩ (answers_bind fun names => answers_pure ⟨_, rfl⟩)
  | clearDirectory path =>
    refine answers_bind fun p => answers_bind fun there => answers_ite ?_ (answers_pure (verdict false))
    exact answers_guarded (verdict false) (answers_bind fun names => answers_bind fun _ =>
      answers_pure (verdict true))

/-! The trees that calls leave. -/

section Trees

variable {β : Type}

/-- What follows the search for a path begins in a proper tree. -/
theorem leaves_resolve_bind {arg : Value} {k : Path → FileAct β} (proper : Proper t)
    (h : ∀ p t, Proper t → Leaves (k p) t) : Leaves (resolve site arg >>= k) t :=
  leaves_bind (leaves_resolve proper) fun p t' _ proper' => h p t' proper'

/-- What follows a question begins in a proper tree, and without a yes nothing follows. -/
theorem leaves_probe {q : FileTree → Except Fault Bool} {yes : FileAct Value} {no : Value}
    (proper : Proper t) (h : ∀ t, Proper t → Leaves yes t) :
    Leaves (ask q >>= fun b => if b = true then yes else pure no) t := by
  refine leaves_bind proper fun b t' _ proper' => ?_
  cases b with
  | true => exact h t' proper'
  | false => exact proper'

/-- Work that is followed by an answer. -/
theorem leaves_then_pure {m : FileAct β} {v : Value} (h : Leaves m t) :
    Leaves (m >>= fun _ => pure v) t := leaves_bind h fun _ _ _ proper' => proper'

end Trees

/-- A call leaves a proper tree proper, whether it is answered or not. -/
theorem FileCall.leaves_act (proper : Proper t) (c : FileCall) : Leaves (c.act site encoding) t := by
  cases c with
  | createFile path content =>
    refine leaves_guarded (leaves_resolve_bind proper fun p t proper => ?_)
    exact leaves_bind (leaves_makeAll proper) fun _ _ _ proper => leaves_then_pure (leaves_writeText proper)
  | createDirectory path =>
    refine leaves_guarded (leaves_resolve_bind proper fun p t proper => ?_)
    exact leaves_then_pure (leaves_makeAll proper)
  | modifyFile path content =>
    refine leaves_resolve_bind proper fun p t proper => leaves_probe proper fun t proper => ?_
    exact leaves_guarded (leaves_then_pure (leaves_writeText proper))
  | readFile path =>
    refine leaves_resolve_bind proper fun p t proper => leaves_probe proper fun t proper => ?_
    refine leaves_bind (leaves_attempt (leaves_readText proper)) fun r t _ proper => ?_
    split
    · exact proper
    · exact leaves_guarded proper
    · exact leaves_guarded proper
  | appendToFile path content =>
    refine leaves_resolve_bind proper fun p t proper => leaves_probe proper fun t proper => ?_
    exact leaves_guarded (leaves_then_pure (leaves_appendText proper))
  | fileExists path =>
    exact leaves_resolve_bind proper fun p t proper => leaves_bind proper fun there _ _ proper => proper
  | deleteFile path =>
    refine leaves_guarded (leaves_resolve_bind proper fun p t proper => ?_)
    refine leaves_bind (leaves_attempt (leaves_edit proper fun _ => proper.removeFile))
      fun r t _ proper => ?_
    split
    · exact proper
    · exact proper
    · exact proper
  | deleteDirectory path =>
    refine leaves_resolve_bind proper fun p t proper => leaves_guarded ?_
    exact leaves_probe proper fun t proper => leaves_then_pure (leaves_removeTree proper)
  | rename old new =>
    refine leaves_resolve_bind proper fun p t proper => leaves_guarded ?_
    refine leaves_probe proper fun t proper => leaves_resolve_bind proper fun q t proper => ?_
    exact leaves_then_pure (leaves_edit proper fun _ => proper.rename)
  | moveFile source destination =>
    refine leaves_resolve_bind proper fun p t proper => leaves_resolve_bind proper fun q t proper => ?_
    refine leaves_guarded (leaves_bind (leaves_makeAll proper) fun _ t _ proper => ?_)
    exact leaves_probe proper fun t proper => leaves_then_pure (leaves_moveNode proper)
  | getFileInfo path =>
    refine leaves_resolve_bind proper fun p t proper => leaves_bind proper fun r t _ proper => ?_
    split
    · exact proper
    · split
      · exact proper
      · exact proper
  | getFileNameList path =>
    refine leaves_resolve_bind proper fun p t proper => leaves_probe proper fun t proper => ?_
    exact leaves_guarded (leaves_bind proper fun names _ _ proper => proper)
  | clearDirectory path =>
    refine leaves_resolve_bind proper fun p t proper => leaves_probe proper fun t proper => ?_
    refine leaves_guarded (leaves_bind proper fun names t _ proper => ?_)
    exact leaves_then_pure (leaves_removeEntries proper)

/-- The tree that calls leave, each begun in the tree that the one before it left. -/
def treeAfter (site : Site) (encoding : Value) (t : FileTree) : List FileCall → FileTree
  | [] => t
  | c :: rest => treeAfter site encoding (c.act site encoding t).world rest

/-- However they end, calls leave a proper tree proper. -/
theorem proper_treeAfter (proper : Proper t) (calls : List FileCall) :
    Proper (treeAfter site encoding t calls) := by
  induction calls generalizing t with
  | nil => exact proper
  | cons c rest ih => exact ih (c.leaves_act proper)

/-- An engine whose world is a tree of files, at work in the root. -/
def filing : Engine FileTree where
  settings := .standard
  site := ⟨⟨"/", []⟩, ⟨"/", ["home"]⟩, [], "", []⟩
  catalogue := Toolbox.catalogue
  plugins := []
  host :=
    { complete := fun _ => pure ""
      command := fun _ text => pure ⟨true, text, some 0, "", "", none⟩
      execute := fun _ _ => pure .null
      files := id
      putFiles := fun t _ => t }

end Stepwise.Files
