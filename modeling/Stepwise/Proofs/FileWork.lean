import Mathlib.Data.List.Basic
import Stepwise.Capability.Files
import Stepwise.Proofs.Actions
import Stepwise.Proofs.FileRefusals

/-!
Work on a tree of files that is put together from operations: which faults it may end in, and that it leaves a
proper tree. Work on clear paths ends in faults of the file system only; work on a path with a null character
ends in the fault of that character.
-/

namespace Stepwise

namespace Act

variable {ε σ α β : Type}

/-- The action fails in this world, with this fault. -/
def Raises (m : Act ε σ α) (s : σ) (f : Fault) : Prop := (m s).result = .error f

/-- The action succeeds in this world, with this result, and leaves the second world. -/
def Gives (m : Act ε σ α) (s : σ) (a : α) (s' : σ) : Prop := (m s).result = .ok a ∧ (m s).world = s'

variable {m : Act ε σ α} {k : α → Act ε σ β} {s s' : σ} {a b : α} {f g : Fault}

theorem raises_bind {f : Fault} :
    Raises (m >>= k) s f ↔ Raises m s f ∨ ∃ a s', Gives m s a s' ∧ Raises (k a) s' f := by
  unfold Raises Gives
  rw [bind_apply]
  rcases m s with ⟨g | a, s', log⟩
  · simp only [Outcome.andThen_error, Except.error.injEq, reduceCtorEq, false_and, exists_false, or_false]
  · simp only [Outcome.andThen_ok, reduceCtorEq, false_or]
    constructor
    · intro h
      exact ⟨a, s', ⟨rfl, rfl⟩, h⟩
    · rintro ⟨b, s'', ⟨same, rfl⟩, h⟩
      cases same
      exact h

theorem gives_bind {b : β} :
    Gives (m >>= k) s b s' ↔ ∃ a s'', Gives m s a s'' ∧ Gives (k a) s'' b s' := by
  unfold Gives
  rw [bind_apply]
  rcases m s with ⟨g | a, s'', log⟩
  · simp only [Outcome.andThen_error, reduceCtorEq, false_and, exists_false]
  · constructor
    · intro h
      exact ⟨a, s'', ⟨rfl, rfl⟩, h⟩
    · rintro ⟨c, t, ⟨same, rfl⟩, h⟩
      cases same
      exact h

@[simp] theorem raises_pure : Raises (pure a : Act ε σ α) s f ↔ False := by
  simp only [Raises, pure_apply, reduceCtorEq]

@[simp] theorem gives_pure : Gives (pure a : Act ε σ α) s b s' ↔ b = a ∧ s' = s := by
  simp only [Gives, pure_apply, Except.ok.injEq, eq_comm]

@[simp] theorem raises_fail : Raises (fail g : Act ε σ α) s f ↔ f = g := by
  simp only [Raises, fail_apply, Except.error.injEq, eq_comm]

@[simp] theorem gives_fail : Gives (fail g : Act ε σ α) s a s' ↔ False := by
  simp only [Gives, fail_apply, reduceCtorEq, false_and]

@[simp] theorem raises_say {x : ε} : Raises (say x : Act ε σ Unit) s f ↔ False := by
  simp only [Raises, say_apply, reduceCtorEq]

@[simp] theorem raises_world : Raises (world : Act ε σ σ) s f ↔ False := by
  simp only [Raises, world_apply, reduceCtorEq]

@[simp] theorem gives_world {s₀ : σ} : Gives (world : Act ε σ σ) s s₀ s' ↔ s₀ = s ∧ s' = s := by
  simp only [Gives, world_apply, Except.ok.injEq, eq_comm]

@[simp] theorem raises_ofExcept {r : Except Fault α} :
    Raises (ofExcept r : Act ε σ α) s f ↔ r = .error f := Iff.rfl

@[simp] theorem gives_ofExcept {r : Except Fault α} :
    Gives (ofExcept r : Act ε σ α) s a s' ↔ r = .ok a ∧ s' = s := by
  simp only [Gives, ofExcept_apply, eq_comm (a := s)]

@[simp] theorem raises_attempt : Raises m.attempt s f ↔ False := by
  simp only [Raises, attempt_apply, reduceCtorEq]

@[simp] theorem gives_attempt {r : Except Fault α} :
    Gives m.attempt s r s' ↔ (m s).result = r ∧ (m s).world = s' := by
  simp only [Gives, attempt_apply, Except.ok.injEq]

/-- What follows an attempt gets its result, whatever that is. -/
theorem raises_attempt_bind {k : Except Fault α → Act ε σ β} :
    Raises (m.attempt >>= k) s f ↔ Raises (k (m s).result) (m s).world f := by
  unfold Raises
  rw [bind_apply, attempt_apply, Outcome.andThen_ok]
  rfl

end Act

namespace Files

open Act FileTree

variable {α β : Type} {t t' : FileTree} {f : Fault}

@[simp] theorem raises_ask {q : FileTree → Except Fault α} : Raises (ask q) t f ↔ q t = .error f := Iff.rfl

@[simp] theorem gives_ask {q : FileTree → Except Fault α} {a : α} :
    Gives (ask q) t a t' ↔ q t = .ok a ∧ t' = t := by
  simp only [Gives, ask, eq_comm (a := t)]

@[simp] theorem raises_edit {c : FileTree → Except Fault FileTree} :
    Raises (edit c) t f ↔ c t = .error f := by
  unfold Raises edit
  cases c t with
  | ok t' => simp only [reduceCtorEq]
  | error g => simp only [Except.error.injEq]

@[simp] theorem gives_edit {c : FileTree → Except Fault FileTree} {u : Unit} :
    Gives (edit c) t u t' ↔ c t = .ok t' := by
  unfold Gives edit
  cases c t with
  | ok t' => simp only [Except.ok.injEq, true_and]
  | error g => simp only [reduceCtorEq, false_and]

theorem edit_of_ok {c : FileTree → Except Fault FileTree} (h : c t = .ok t') : edit c t = ⟨.ok (), t', []⟩ := by
  rw [edit, h]

theorem edit_of_error {c : FileTree → Except Fault FileTree} (h : c t = .error f) :
    edit c t = ⟨.error f, t, []⟩ := by
  rw [edit, h]

/-- What follows a question that is answered begins in the same tree. -/
theorem ask_bind_of_ok {q : FileTree → Except Fault α} {k : α → FileAct β} {a : α} (h : q t = .ok a) :
    (ask q >>= k) t = k a t := by
  rw [bind_apply, ask, h]
  rfl

theorem ask_bind_of_error {q : FileTree → Except Fault α} {k : α → FileAct β} (h : q t = .error f) :
    (ask q >>= k) t = ⟨.error f, t, []⟩ := by
  rw [bind_apply, ask, h]
  rfl

/-- What follows a change begins in the changed tree. -/
theorem edit_bind_of_ok {c : FileTree → Except Fault FileTree} {k : Unit → FileAct β} (h : c t = .ok t') :
    (edit c >>= k) t = k () t' := by
  rw [bind_apply, edit_of_ok h]
  rfl

theorem edit_bind_of_error {c : FileTree → Except Fault FileTree} {k : Unit → FileAct β} (h : c t = .error f) :
    (edit c >>= k) t = ⟨.error f, t, []⟩ := by
  rw [bind_apply, edit_of_error h]
  rfl

/-- What follows the attempt of a change gets the fault if there is one. -/
theorem attempt_edit_bind_of_ok {c : FileTree → Except Fault FileTree} {k : Except Fault Unit → FileAct β}
    (h : c t = .ok t') : ((edit c).attempt >>= k) t = k (.ok ()) t' := by
  rw [bind_apply, attempt_apply, edit_of_ok h]
  rfl

theorem attempt_edit_bind_of_error {c : FileTree → Except Fault FileTree} {k : Except Fault Unit → FileAct β}
    (h : c t = .error f) : ((edit c).attempt >>= k) t = k (.error f) t := by
  rw [bind_apply, attempt_apply, edit_of_error h]
  rfl

theorem ofExcept_bind_ok {a : α} {k : α → FileAct β} : (ofExcept (.ok a) >>= k) t = k a t := rfl

/-! Faults of the file system only. -/

/-- Every fault in which the work ends in this tree is one of the file system. -/
def Mild (m : FileAct α) (t : FileTree) : Prop := ∀ f, Raises m t f → f.isSystem = true

theorem mild_bind {m : FileAct α} {k : α → FileAct β} (first : Mild m t)
    (after : ∀ a t', Gives m t a t' → Mild (k a) t') : Mild (m >>= k) t := by
  intro f raised
  rcases raises_bind.mp raised with now | ⟨a, t', given, later⟩
  · exact first f now
  · exact after a t' given f later

theorem mild_pure (a : α) : Mild (pure a) t := by
  intro f raised
  exact (raises_pure.mp raised).elim

theorem mild_fail (system : f.isSystem = true) : Mild (Act.fail f : FileAct α) t := by
  intro g raised
  rw [raises_fail.mp raised]
  exact system

theorem mild_ask {q : FileTree → Except Fault α} (h : OnlySystem (q t)) : Mild (ask q) t := h

theorem mild_edit {c : FileTree → Except Fault FileTree} (h : OnlySystem (c t)) : Mild (edit c) t := by
  intro f raised
  exact h f (raises_edit.mp raised)

theorem mild_attempt {m : FileAct α} : Mild m.attempt t := by
  intro f raised
  exact (raises_attempt.mp raised).elim

/-- The fault that ended mild work is one of the file system. -/
theorem Mild.of_attempt {m : FileAct α} (mild : Mild m t) (given : Gives m.attempt t (.error f) t') :
    f.isSystem = true := mild f (gives_attempt.mp given).1

theorem onlySystem_question {p : Path} {q : Node → Bool} : OnlySystem (t.question p q) := by
  intro f refused
  rw [(question_error.mp refused).2.2]
  rfl

/-- The work ends in this tree in a fault that is not one of the file system. -/
def Passes (m : FileAct α) (t : FileTree) (f : Fault) : Prop := Raises m t f ∧ f.isSystem = false

theorem Mild.not_passes {m : FileAct α} (mild : Mild m t) : ¬ Passes m t f := by
  rintro ⟨raised, other⟩
  rw [mild f raised] at other
  cases other

theorem passes_bind {m : FileAct α} {k : α → FileAct β} :
    Passes (m >>= k) t f ↔ Passes m t f ∨ ∃ a t', Gives m t a t' ∧ Passes (k a) t' f := by
  unfold Passes
  rw [raises_bind, or_and_right]
  refine or_congr_right ?_
  constructor
  · rintro ⟨⟨a, t', given, raised⟩, other⟩
    exact ⟨a, t', given, raised, other⟩
  · rintro ⟨a, t', given, raised, other⟩
    exact ⟨⟨a, t', given, raised⟩, other⟩

@[simp] theorem passes_pure {a : α} : Passes (pure a) t f ↔ False :=
  iff_false_intro (mild_pure a).not_passes

/-- Work that ends in the fault of a null character if the path has one, and is mild otherwise. -/
theorem passes_iff_null {m : FileAct α} {p : Path}
    (of_null : p.hasNull = true → (Raises m t f ↔ f = nullByte))
    (of_clear : p.hasNull = false → Mild m t) : Passes m t f ↔ p.hasNull = true ∧ f = nullByte := by
  cases null : p.hasNull with
  | true =>
    unfold Passes
    rw [of_null null]
    constructor
    · rintro ⟨rfl, -⟩
      exact ⟨rfl, rfl⟩
    · rintro ⟨-, rfl⟩
      exact ⟨rfl, rfl⟩
  | false =>
    constructor
    · intro passed
      exact absurd passed (of_clear null).not_passes
    · rintro ⟨no, -⟩
      cases no

/-! Proper trees. -/

/-- The work leaves a proper tree in place of this one. -/
def Leaves (m : FileAct α) (t : FileTree) : Prop := Proper (m t).world

theorem leaves_bind {m : FileAct α} {k : α → FileAct β} (first : Leaves m t)
    (after : ∀ a t', Gives m t a t' → Proper t' → Leaves (k a) t') : Leaves (m >>= k) t := by
  unfold Leaves at *
  rw [bind_apply]
  rcases outcome : m t with ⟨g | a, t', log⟩
  · rw [outcome] at first
    exact first
  · rw [outcome] at first
    refine after a t' ⟨?_, ?_⟩ first
    · rw [outcome]
    · rw [outcome]

theorem leaves_attempt {m : FileAct α} (h : Leaves m t) : Leaves m.attempt t := h

theorem leaves_edit {c : FileTree → Except Fault FileTree} (proper : Proper t)
    (h : ∀ t', c t = .ok t' → Proper t') : Leaves (edit c) t := by
  unfold Leaves edit
  cases changed : c t with
  | ok t' => exact h t' changed
  | error g => exact proper

/-! Making directories. -/

variable {p q : Path}

theorem mild_settle (system : f.isSystem = true) : Mild (settle p f) t := by
  unfold settle
  rw [if_pos system]
  refine mild_bind (mild_ask onlySystem_question) fun b t' _ => ?_
  cases b with
  | true => exact mild_pure ()
  | false => exact mild_fail system

theorem leaves_settle (proper : Proper t) : Leaves (settle p f) t := by
  unfold settle
  cases f.isSystem with
  | true =>
    refine leaves_bind proper fun b t' _ proper' => ?_
    cases b with
    | true => exact proper'
    | false => exact proper'
  | false => exact proper

/-- Making a directory at a clear path is mild if making the ones above it is. -/
theorem mild_makeAfter (clear : p.hasNull = false) {above : Option (FileAct Unit)}
    (h : ∀ make, above = some make → ∀ t, Mild make t) : Mild (makeAfter p above) t := by
  have tried (t : FileTree) : Mild (edit fun t => t.makeDirectory p) t :=
    mild_edit (onlySystem_makeDirectory clear)
  unfold makeAfter
  refine mild_bind mild_attempt fun r t' given => ?_
  split
  · exact mild_pure ()
  · next make =>
    refine mild_bind (h make rfl t') fun _ t'' _ => ?_
    refine mild_bind mild_attempt fun r t₃ given => ?_
    cases r with
    | ok u => exact mild_pure ()
    | error g => exact mild_settle ((tried t'').of_attempt given)
  · exact mild_fail rfl
  · exact mild_settle ((tried t).of_attempt given)

theorem mild_makeDirectories (n : ℕ) (clear : p.hasNull = false) : Mild (makeDirectories n p) t := by
  induction n generalizing p t with
  | zero => exact mild_makeAfter clear fun make none => by cases none
  | succ n ih =>
    refine mild_makeAfter clear fun make same t => ?_
    cases same
    exact ih (Path.parent_clear clear)

theorem leaves_makeAfter (proper : Proper t) {above : Option (FileAct Unit)}
    (h : ∀ make, above = some make → ∀ t, Proper t → Leaves make t) : Leaves (makeAfter p above) t := by
  have made {t : FileTree} (proper : Proper t) : Leaves (edit fun t => t.makeDirectory p).attempt t :=
    leaves_attempt (leaves_edit proper fun _ => proper.makeDirectory)
  unfold makeAfter
  refine leaves_bind (made proper) fun r t' _ proper' => ?_
  split
  · exact proper'
  · next make _ =>
    refine leaves_bind (h make rfl t' proper') fun _ t'' _ proper'' => ?_
    refine leaves_bind (made proper'') fun r t₃ _ proper₃ => ?_
    cases r with
    | ok u => exact proper₃
    | error g => exact leaves_settle proper₃
  · exact proper'
  · exact leaves_settle proper'

theorem leaves_makeDirectories (n : ℕ) (proper : Proper t) : Leaves (makeDirectories n p) t := by
  induction n generalizing p t with
  | zero => exact leaves_makeAfter proper fun make none => by cases none
  | succ n ih =>
    refine leaves_makeAfter proper fun make same t proper' => ?_
    cases same
    exact ih proper'

theorem mild_makeAll (clear : p.hasNull = false) : Mild (makeAll p) t := mild_makeDirectories _ clear

theorem leaves_makeAll (proper : Proper t) : Leaves (makeAll p) t := leaves_makeDirectories _ proper

/-- A directory at a path with a null character is not made, whatever is above it. -/
theorem makeAll_of_null (null : p.hasNull = true) : Raises (makeAll p) t f ↔ f = nullByte := by
  have refused : (edit (fun t => t.makeDirectory p) t).result = .error nullByte :=
    raises_edit.mpr (makeDirectory_of_null null)
  -- the fault is no missing entry, so the directories above are not tried
  have first (above : Option (FileAct Unit)) : Raises (makeAfter p above) t f ↔ f = nullByte := by
    unfold makeAfter
    rw [raises_attempt_bind, refused]
    exact raises_fail
  unfold makeAll
  cases p.parts.length with
  | zero => exact first none
  | succ n => exact first _

/-- Besides errors of the file system, making a directory fails for a null character only. -/
theorem passes_makeAll : Passes (makeAll p) t f ↔ p.hasNull = true ∧ f = nullByte :=
  passes_iff_null makeAll_of_null mild_makeAll

/-! Removing and moving. -/

theorem mild_removeTree (clear : p.hasNull = false) : Mild (removeTree p) t := by
  unfold removeTree
  refine mild_bind (mild_ask (onlySystem_status clear)) fun n t' _ => ?_
  cases n with
  | link target => exact mild_fail rfl
  | file bytes => exact mild_fail rfl
  | directory =>
    refine mild_bind (mild_edit fun g refused => ?_) fun _ t'' _ => ?_
    · cases found : t'.spot false p with
      | error h =>
        rw [found] at refused
        have same : h = g := Except.error.inj refused
        exact same ▸ onlySystem_spot clear h found
      | ok s =>
        rw [found] at refused
        cases refused
    · exact mild_edit (onlySystem_removeDirectory clear)

theorem leaves_removeTree (proper : Proper t) : Leaves (removeTree p) t := by
  unfold removeTree
  refine leaves_bind proper fun n t' _ proper' => ?_
  cases n with
  | link target => exact proper'
  | file bytes => exact proper'
  | directory =>
    refine leaves_bind (leaves_edit proper' fun t'' emptied => ?_) fun _ t'' _ proper'' => ?_
    · cases found : t'.spot false p with
      | error h =>
        rw [found] at emptied
        cases emptied
      | ok s =>
        rw [found] at emptied
        cases emptied
        exact proper'.eraseInside _
    · exact leaves_edit proper'' fun _ => proper''.removeDirectory

theorem mild_removeEntry (clear : p.hasNull = false) : Mild (removeEntry p) t := by
  have removed {t : FileTree} : Mild (edit fun t => t.removeFile p) t := mild_edit (onlySystem_removeFile clear)
  unfold removeEntry
  refine mild_bind (mild_ask onlySystem_question) fun b t' _ => ?_
  cases b with
  | false => exact removed
  | true =>
    refine mild_bind (mild_ask (onlySystem_status clear)) fun n t'' _ => ?_
    cases n with
    | link target => exact removed
    | directory => exact mild_removeTree clear
    | file bytes => exact mild_removeTree clear

theorem leaves_removeEntry (proper : Proper t) : Leaves (removeEntry p) t := by
  have removed {t : FileTree} (proper : Proper t) : Leaves (edit fun t => t.removeFile p) t :=
    leaves_edit proper fun _ => proper.removeFile
  unfold removeEntry
  refine leaves_bind proper fun b t' _ proper' => ?_
  cases b with
  | false => exact removed proper'
  | true =>
    refine leaves_bind proper' fun n t'' _ proper'' => ?_
    cases n with
    | link target => exact removed proper''
    | directory => exact leaves_removeTree proper''
    | file bytes => exact leaves_removeTree proper''

/-- Names that were read from a proper tree are removed without any other fault. -/
theorem mild_removeEntries (clear : p.hasNull = false) {names : List String}
    (named : ∀ name ∈ names, ClearName name) : Mild (removeEntries p names) t := by
  induction names generalizing t with
  | nil => exact mild_pure ()
  | cons name rest ih =>
    unfold removeEntries
    refine mild_bind (mild_removeEntry (Path.child_clear clear (named name List.mem_cons_self)))
      fun _ t' _ => ?_
    exact ih fun n hn => named n (List.mem_cons_of_mem name hn)

theorem leaves_removeEntries (proper : Proper t) {names : List String} :
    Leaves (removeEntries p names) t := by
  induction names generalizing t with
  | nil => exact proper
  | cons name rest ih =>
    unfold removeEntries
    exact leaves_bind (leaves_removeEntry proper) fun _ t' _ proper' => ih proper'

theorem mild_moveOtherwise {goal : Path} (clear : p.hasNull = false) (goal_clear : goal.hasNull = false)
    (system : f.isSystem = true) : Mild (moveOtherwise p q goal f) t := by
  unfold moveOtherwise
  refine mild_bind (mild_ask (onlySystem_status clear)) fun n t' _ => ?_
  cases n with
  | link target =>
    refine mild_bind (mild_edit (onlySystem_makeLink goal_clear)) fun _ t'' _ => ?_
    exact mild_edit (onlySystem_removeFile clear)
  | directory =>
    dsimp only
    split
    · exact mild_fail rfl
    · split
      · exact mild_removeTree clear
      · exact mild_fail rfl
      · exact mild_fail rfl
      · exact mild_fail system
  | file bytes =>
    dsimp only
    split
    · exact mild_fail rfl
    · exact mild_fail system

theorem leaves_moveOtherwise {goal : Path} (proper : Proper t) : Leaves (moveOtherwise p q goal f) t := by
  unfold moveOtherwise
  refine leaves_bind proper fun n t' given proper' => ?_
  obtain ⟨found, -⟩ := gives_ask.mp given
  cases n with
  | link target =>
    have target_clear := proper.of_status found
    refine leaves_bind (leaves_edit proper' fun _ => proper'.makeLink target_clear)
      fun _ t'' _ proper'' => ?_
    exact leaves_edit proper'' fun _ => proper''.removeFile
  | directory =>
    dsimp only
    split
    · exact proper'
    · split
      · exact leaves_removeTree proper'
      · exact proper'
      · exact proper'
      · exact proper'
  | file bytes =>
    dsimp only
    split
    · exact proper'
    · exact proper'

theorem mild_toGoal {goal : Path} (clear : p.hasNull = false) (goal_clear : goal.hasNull = false) :
    Mild (moveNode.toGoal p q goal) t := by
  unfold moveNode.toGoal
  refine mild_bind mild_attempt fun r t' given => ?_
  cases r with
  | ok u => exact mild_pure ()
  | error g =>
    have system : g.isSystem = true :=
      (mild_edit (onlySystem_rename clear goal_clear)).of_attempt given
    dsimp only
    rw [if_pos system]
    exact mild_moveOtherwise clear goal_clear system

theorem leaves_toGoal {goal : Path} (proper : Proper t) : Leaves (moveNode.toGoal p q goal) t := by
  unfold moveNode.toGoal
  refine leaves_bind (leaves_attempt (leaves_edit proper fun _ => proper.rename)) fun r t' _ proper' => ?_
  cases r with
  | ok u => exact proper'
  | error g =>
    dsimp only
    split
    · exact leaves_moveOtherwise proper'
    · exact proper'

theorem mild_moveNode (clear : p.hasNull = false) (clear' : q.hasNull = false) :
    Mild (moveNode p q) t := by
  have goal_clear : (q.child p.name).hasNull = false := Path.child_clear clear' (Path.name_clear clear)
  unfold moveNode
  refine mild_bind (fun g raised => (raises_world.mp raised).elim) fun t₀ t' _ => ?_
  split
  · split
    · exact mild_edit (onlySystem_rename clear clear')
    · dsimp only
      split
      · exact mild_fail rfl
      · exact mild_toGoal clear goal_clear
  · exact mild_toGoal clear clear'

theorem leaves_moveNode (proper : Proper t) : Leaves (moveNode p q) t := by
  unfold moveNode
  refine leaves_bind proper fun t₀ t' _ proper' => ?_
  split
  · split
    · exact leaves_edit proper' fun _ => proper'.rename
    · dsimp only
      split
      · exact proper'
      · exact leaves_toGoal proper'
  · exact leaves_toGoal proper'

/-- Nothing is moved to a path with a null character. -/
theorem moveNode_of_null (null : q.hasNull = true) : Raises (moveNode p q) t f ↔ f = nullByte := by
  have nowhere : holds (t.isDirectory q) = false := congrArg holds (question_of_null null)
  have refused : (edit (fun t => t.rename p q) t).result = .error nullByte :=
    raises_edit.mpr (rename_of_null null)
  have goal : Raises (moveNode.toGoal p q q) t f ↔ f = nullByte := by
    unfold moveNode.toGoal
    rw [raises_attempt_bind, refused]
    exact raises_fail
  unfold moveNode
  simp only [raises_bind, raises_world, gives_world, false_or, exists_and_left, exists_eq_left,
    and_assoc, nowhere, Bool.false_eq_true, if_false]
  exact goal

/-- Besides errors of the file system, a move fails for a null character in its goal only. -/
theorem passes_moveNode (clear : p.hasNull = false) :
    Passes (moveNode p q) t f ↔ q.hasNull = true ∧ f = nullByte :=
  passes_iff_null moveNode_of_null (mild_moveNode clear)

end Files

end Stepwise
