import Mathlib.Data.List.Basic
import Stepwise.Proofs.HookCalls
import Stepwise.Proofs.SharedWorld

/-!
Erasing a plugin. An action with the plugin erases to one without it if it ends in the same way, leaves the
same but for the memory of the plugin, and logs the same but for what comes from the plugin; and what does
come from it is what its own answers call for. Erasing is shown for each way of putting actions together,
and then for a value that is passed through plugins of which one gives only useless answers.
-/

namespace Stepwise

variable {σ τ ω ω' α β : Type}

/-- The fault of a result. -/
def faultOf? : Except Fault α → Option Fault
  | .ok _ => none
  | .error f => some f

namespace HookCall

/-- Whether an answer may replace what passes at a point; other points are only watched. -/
def isTransform : HookCall → Bool
  | beforeRequest _ => true
  | afterReply _ => true
  | afterParse _ => true
  | beforeStep .. => true
  | _ => false

/-- Why a value is turned down at a point. -/
def refusal? : HookCall → Value → Option Fault
  | beforeRequest _, v => faultOf? (Hooks.acceptMessages v)
  | afterReply _, v => faultOf? (Hooks.acceptReply v)
  | afterParse _, v => faultOf? (Hooks.acceptPlan v)
  | beforeStep .., v => faultOf? (Hooks.acceptStep v)
  | _, _ => none

/-- The failure that an answer is reported with: what went wrong in giving it, or why it is turned down. -/
def failure? (call : HookCall) : Except Fault Value → Option Fault
  | .error f => some f
  | .ok .null => none
  | .ok v => call.refusal? v

/-- An answer of no use: a failure, or where a value could replace something, nothing or a value that is
turned down. -/
def Useless (call : HookCall) : Except Fault Value → Prop
  | .error _ => True
  | .ok v => call.isTransform → v = .null ∨ call.refusal? v ≠ none

/-- A plan can only be replaced by a list. -/
theorem refusal?_afterParse_eq_none_iff (plan : List Step) (v : Value) :
    (afterParse plan).refusal? v = none ↔ ∃ items, v = .list items := by
  cases v <;> simp [refusal?, Hooks.acceptPlan, faultOf?]

/-- A step can only be replaced by an object. -/
theorem refusal?_beforeStep_eq_none_iff (plan : List Step) (index : ℕ) (step : Step) (v : Value) :
    (beforeStep plan index step).refusal? v = none ↔ ∃ members, v = .object members := by
  cases v <;> simp [refusal?, Hooks.acceptStep, faultOf?]

end HookCall

/-- A plugin with a memory that is good for nothing: it touches nothing but its memory, and gives no answer
of any use. -/
structure Plugin.Faulty (p : Plugin (σ × τ)) : Prop where
  answered : ∀ call w t, ∃ r t', p.answer call (w, t) = ⟨r, (w, t'), []⟩ ∧ call.Useless r

/-- A call that a plugin got, and its answer. -/
structure Visit where
  call : HookCall
  answer : Except Fault Value

/-- What a visit leaves in the log: the call, and the failure if the answer is one. -/
def Visit.entries (position : ℕ) (name : String) (v : Visit) : List Event :=
  .hook position name v.call ::
    ((v.call.failure? v.answer).map (.hookFailed position name v.call.name)).toList

/-- The visits that take the memory of a plugin from one state to another, one after the other. -/
inductive Visited (p : Plugin (σ × τ)) : τ → List Visit → τ → Prop
  | nil (t : τ) : Visited p t [] t
  | cons {w : σ} {t t' t'' : τ} {call : HookCall} {r : Except Fault Value} {visits : List Visit}
      (answered : p.answer call (w, t) = ⟨r, (w, t'), []⟩) (later : Visited p t' visits t'') :
      Visited p t (⟨call, r⟩ :: visits) t''

theorem Visited.append {p : Plugin (σ × τ)} {t t' t'' : τ} {visits visits' : List Visit}
    (h : Visited p t visits t') (h' : Visited p t' visits' t'') : Visited p t (visits ++ visits') t'' := by
  induction h with
  | nil t => exact h'
  | cons answered later ih => exact .cons answered (ih h')

namespace Event

/-- Whether an entry comes from calling the plugin at a position. -/
def isFrom (position : ℕ) : Event → Bool
  | hook n _ _ => n == position
  | hookFailed n _ _ _ => n == position
  | _ => false

/-- A position among the plugins without the one at `position`. -/
def closeUp (position n : ℕ) : ℕ := if n ≤ position then n else n - 1

/-- An entry as it is without the plugin at a position. -/
def without (position : ℕ) : Event → Option Event
  | hook n name call => if n = position then none else some (hook (closeUp position n) name call)
  | hookFailed n name point f =>
    if n = position then none else some (hookFailed (closeUp position n) name point f)
  | x => some x

end Event

theorem Visit.filterMap_without (position : ℕ) (name : String) (v : Visit) :
    (v.entries position name).filterMap (Event.without position) = [] := by
  unfold entries
  cases v.call.failure? v.answer <;> simp [Event.without]

theorem Visit.filter_isFrom (position : ℕ) (name : String) (v : Visit) :
    (v.entries position name).filter (Event.isFrom position) = v.entries position name := by
  unfold entries
  cases v.call.failure? v.answer <;> simp [Event.isFrom]

/-- How a world with a plugin looks without it, and the memory of the plugin. -/
structure View (ω ω' τ : Type) where
  world : ω → ω'
  memory : ω → τ

/-- In a world, an action with the plugin at a position erases to one without it. -/
structure Erases (V : View ω ω' τ) (position : ℕ) (p : Plugin (σ × τ)) (s : ω) (m : Act Event ω α)
    (m' : Act Event ω' α) : Prop where
  outcome : m' (V.world s) =
    ⟨(m s).result, V.world (m s).world, (m s).log.filterMap (Event.without position)⟩
  visits : ∃ visits, Visited p (V.memory s) visits (V.memory (m s).world) ∧
    (m s).log.filter (Event.isFrom position) = visits.flatMap (Visit.entries position p.name)

namespace Erases

variable {V : View ω ω' τ} {position : ℕ} {p : Plugin (σ × τ)} {s : ω}

/-- An action that logs nothing and does not touch the memory erases to the one that does the same. -/
theorem silent {m : Act Event ω α} {m' : Act Event ω' α} {r : Except Fault α} {t : ω}
    (h : m s = ⟨r, t, []⟩) (h' : m' (V.world s) = ⟨r, V.world t, []⟩) (kept : V.memory t = V.memory s) :
    Erases V position p s m m' := by
  refine ⟨by rw [h, h']; rfl, [], ?_, by rw [h]; rfl⟩
  rw [h, kept]
  exact .nil _

theorem pure (a : α) : Erases V position p s (pure a) (pure a) := silent rfl rfl rfl

theorem fail (f : Fault) : Erases V position p s (Act.fail f : Act Event ω α) (Act.fail f) :=
  silent rfl rfl rfl

theorem ofExcept (r : Except Fault α) : Erases V position p s (Act.ofExcept r) (Act.ofExcept r) :=
  silent rfl rfl rfl

theorem change {f : ω → ω} {f' : ω' → ω'} (looks : f' (V.world s) = V.world (f s))
    (kept : V.memory (f s) = V.memory s) : Erases V position p s (Act.change f) (Act.change f') :=
  silent rfl (by rw [Act.change_apply, looks]) kept

theorem say {x y : Event} (others : x.isFrom position = false) (looks : x.without position = some y) :
    Erases V position p s (Act.say x) (Act.say y) := by
  refine ⟨?_, [], .nil _, ?_⟩
  · simp [looks]
  · simp [others]

theorem bind {m : Act Event ω α} {m' : Act Event ω' α} {f : α → Act Event ω β} {f' : α → Act Event ω' β}
    (h : Erases V position p s m m') (h' : ∀ a t, Erases V position p t (f a) (f' a)) :
    Erases V position p s (m >>= f) (m' >>= f') := by
  obtain ⟨outcome, visits, visited, entries⟩ := h
  -- A failure ends both actions; else what follows is erased in the world that the first action leaves.
  rcases hm : m s with ⟨g | a, t, log⟩
  · rw [hm] at outcome visited entries
    refine ⟨?_, visits, ?_, ?_⟩
    · simp [outcome, hm]
    · simpa [hm] using visited
    · simpa [hm] using entries
  · rw [hm] at outcome visited entries
    obtain ⟨outcome', visits', visited', entries'⟩ := h' a t
    refine ⟨?_, visits ++ visits', ?_, ?_⟩
    · simp [outcome, hm, outcome', Act.after]
    · simpa [hm, Act.after] using visited.append visited'
    · simp only at entries
      simp [hm, Act.after, entries, entries']

theorem attempt {m : Act Event ω α} {m' : Act Event ω' α} (h : Erases V position p s m m') :
    Erases V position p s m.attempt m'.attempt := by
  obtain ⟨outcome, visits, visited, entries⟩ := h
  exact ⟨by simp [outcome], visits, visited, entries⟩

/-- What follows may depend on the world as long as it erases there. -/
theorem read {f : ω → Act Event ω β} {f' : ω' → Act Event ω' β}
    (h : Erases V position p s (f s) (f' (V.world s))) :
    Erases V position p s (Act.world >>= f) (Act.world >>= f') :=
  ⟨h.outcome, h.visits⟩

/-- A visit has no place in what is left when the plugin is erased. -/
theorem visit {m : Act Event ω α} {f : α → Act Event ω β} {m' : Act Event ω' β} {a : α} {t : ω}
    {v : Visit} (called : m s = ⟨.ok a, t, v.entries position p.name⟩)
    (looks : V.world t = V.world s) (visited : Visited p (V.memory s) [v] (V.memory t))
    (later : Erases V position p t (f a) m') : Erases V position p s (m >>= f) m' := by
  obtain ⟨outcome, visits, visited', entries⟩ := later
  refine ⟨?_, v :: visits, ?_, ?_⟩
  · simp [← looks, outcome, called, Act.after, v.filterMap_without]
  · simpa [called, Act.after] using visited.append visited'
  · simp [called, Act.after, entries, v.filter_isFrom]

end Erases

/-- The world outside, which the memory lies beside. -/
def outerView (σ τ : Type) : View (σ × τ) σ τ := ⟨Prod.fst, Prod.snd⟩

theorem filterMap_without_deeds (position : ℕ) (deeds : List Deed) :
    (deeds.map Event.deed).filterMap (Event.without position) = deeds.map Event.deed := by
  induction deeds with
  | nil => rfl
  | cons d deeds ih => simp [Event.without, ih]

theorem filter_isFrom_deeds (position : ℕ) (deeds : List Deed) :
    (deeds.map Event.deed).filter (Event.isFrom position) = [] := by
  induction deeds with
  | nil => rfl
  | cons d deeds ih => simp [Event.isFrom, ih]

/-- What does not know of the memory erases to itself. -/
theorem Erases.beside {position : ℕ} {p : Plugin (σ × τ)} (m : Act Deed σ α) (s : σ × τ) :
    Erases (outerView σ τ) position p s (m.beside.relabel Event.deed) (m.relabel Event.deed) := by
  refine ⟨?_, [], .nil _, ?_⟩
  · simp only [Act.relabel_apply, Act.beside_apply, filterMap_without_deeds]
    rfl
  · simp only [Act.relabel_apply, Act.beside_apply, filter_isFrom_deeds]
    rfl

namespace Hooks

variable {position : ℕ} {p : Plugin (σ × τ)} {accept : Value → Except Fault α} {call : α → HookCall}

/-- Values are read in the way of the point that they are meant for, and nothing is gained by a value at a
point that is only watched. -/
structure Fits (accept : Value → Except Fault α) (call : α → HookCall) : Prop where
  refusal : ∀ a v, (call a).refusal? v = faultOf? (accept v)
  watched : ∀ a, (call a).isTransform = false → Subsingleton α

theorem fits_messages : Fits acceptMessages .beforeRequest := ⟨fun _ _ => rfl, fun _ h => by cases h⟩

theorem fits_reply : Fits acceptReply .afterReply := ⟨fun _ _ => rfl, fun _ h => by cases h⟩

theorem fits_plan : Fits acceptPlan .afterParse := ⟨fun _ _ => rfl, fun _ h => by cases h⟩

theorem fits_step (plan : List Step) (index : ℕ) : Fits acceptStep (.beforeStep plan index) :=
  ⟨fun _ _ => rfl, fun _ h => by cases h⟩

/-- A point that takes any value is only watched. -/
theorem fits_watched {c : HookCall} (taken : ∀ v, c.refusal? v = none) :
    Fits (fun _ => .ok ()) (fun _ : Unit => c) :=
  ⟨fun _ v => taken v, fun _ _ => inferInstance⟩

/-- What is reported of an answer. -/
theorem Fits.failure?_eq (fits : Fits accept call) (a : α) (r : Except Fault Value) :
    (call a).failure? r = faultOf? (answerOf accept r) := by
  rcases r with f | v
  · rfl
  · have read := fits.refusal a v
    have mapped : faultOf? ((accept v).map some) = faultOf? (accept v) := by
      cases accept v <;> rfl
    cases v with
    | null => rfl
    | _ => exact read.trans mapped.symm

/-- A useless answer changes nothing. -/
theorem Fits.eq_of_useless (fits : Fits accept call) {a b : α} {r : Except Fault Value}
    (useless : (call a).Useless r) (read : answerOf accept r = .ok (some b)) : b = a := by
  cases transform : (call a).isTransform with
  | false =>
    have := fits.watched a transform
    exact Subsingleton.elim b a
  | true =>
    rcases r with f | v
    · cases read
    · have taken : faultOf? (answerOf accept (.ok v)) = none := by rw [read]; rfl
      rw [← fits.failure?_eq a] at taken
      obtain rfl | refused := useless transform
      · cases read
      · cases v <;> first | cases read | exact absurd taken refused

/-- The plugin is called, and what passes stays as it is. -/
theorem ask_faulty (fits : Fits accept call) (faulty : p.Faulty) (a : α) (w : σ) (t : τ) :
    ∃ r t', p.answer (call a) (w, t) = ⟨r, (w, t'), []⟩ ∧
      ask accept position p (call a) a (w, t) =
        ⟨.ok a, (w, t'), Visit.entries position p.name ⟨call a, r⟩⟩ := by
  obtain ⟨r, t', answered, useless⟩ := faulty.answered (call a) w t
  have reported := fits.failure?_eq a r
  refine ⟨r, t', answered, ?_⟩
  -- The answer failed or was turned down, says nothing, or says what is there already.
  rcases read : answerOf accept r with f | _ | b
  · rw [read] at reported
    simp [ask, answered, read, Visit.entries, reported, faultOf?]
  · rw [read] at reported
    simp [ask, answered, read, Visit.entries, reported, faultOf?]
  · rw [read] at reported
    obtain rfl := fits.eq_of_useless useless read
    simp [ask, answered, read, Visit.entries, reported, faultOf?]

/-- Another plugin is called as before, only that it may have another position. -/
theorem erases_ask (q : Plugin σ) (n : ℕ) (other : n ≠ position) (c : HookCall) (a : α) (s : σ × τ) :
    Erases (outerView σ τ) position p s (ask accept n q.beside c a)
      (ask accept (Event.closeUp position n) q c a) := by
  unfold ask
  refine .bind (.say ?_ ?_) fun _ s => .bind (.attempt ?_) fun r s => ?_
  · simp [Event.isFrom, other]
  · simp [Event.without, other, Plugin.beside]
  · rw [Plugin.answer_beside]
    exact .beside _ s
  · rcases answerOf accept r with f | _ | b
    · refine .bind (.say ?_ ?_) fun _ s => .pure a
      · simp [Event.isFrom, other]
      · simp [Event.without, other, Plugin.beside]
    · exact .pure a
    · exact .pure b

theorem transform_append (ps qs : List (Plugin σ)) (n : ℕ) (a : α) :
    transform accept call n (ps ++ qs) a =
      transform accept call n ps a >>= transform accept call (n + ps.length) qs := by
  induction ps generalizing n a with
  | nil => rfl
  | cons p ps ih =>
    simp only [List.cons_append, transform, ih, bind_assoc, List.length_cons]
    rw [Nat.add_right_comm, Nat.add_assoc]

/-- A value passes through plugins of which none is the one at `position`. -/
theorem erases_transform (qs : List (Plugin σ)) (n : ℕ)
    (apart : n + qs.length ≤ position ∨ position < n) (a : α) (s : σ × τ) :
    Erases (outerView σ τ) position p s (transform accept call n (qs.map Plugin.beside) a)
      (transform accept call (Event.closeUp position n) qs a) := by
  induction qs generalizing n a s with
  | nil => exact .pure a
  | cons q qs ih =>
    have next : Event.closeUp position n + 1 = Event.closeUp position (n + 1) := by
      simp only [Event.closeUp, List.length_cons] at apart ⊢
      split <;> split <;> omega
    rw [List.map_cons, transform, transform, next]
    simp only [List.length_cons] at apart
    exact .bind (erases_ask q n (by omega) _ a s) fun b s => ih (n + 1) (by omega) b s

/-- A value passes through plugins as it would without the one that is good for nothing. -/
theorem erases_transform_faulty (fits : Fits accept call) (faulty : p.Faulty) (qs qs' : List (Plugin σ))
    (a : α) (s : σ × τ) :
    Erases (outerView σ τ) qs.length p s
      (transform accept call 0 (qs.map Plugin.beside ++ p :: qs'.map Plugin.beside) a)
      (transform accept call 0 (qs ++ qs') a) := by
  -- The plugin stands behind all of the first plugins and before all of the others.
  have before : Erases (outerView σ τ) qs.length p s (transform accept call 0 (qs.map Plugin.beside) a)
      (transform accept call (Event.closeUp qs.length 0) qs a) :=
    erases_transform qs 0 (.inl (Nat.le_of_eq (Nat.zero_add _))) a s
  have after : ∀ b t, Erases (outerView σ τ) qs.length p t
      (transform accept call (qs.length + 1) (qs'.map Plugin.beside) b)
      (transform accept call (Event.closeUp qs.length (qs.length + 1)) qs' b) :=
    erases_transform qs' (qs.length + 1) (.inr (Nat.lt_succ_self _))
  have first : Event.closeUp qs.length 0 = 0 := rfl
  have second : Event.closeUp qs.length (qs.length + 1) = qs.length := by
    simp [Event.closeUp]
  rw [first] at before
  rw [second] at after
  rw [transform_append, transform_append, List.length_map, Nat.zero_add]
  refine before.bind fun b s => ?_
  obtain ⟨w, t⟩ := s
  obtain ⟨r, t', answered, asked⟩ := ask_faulty fits faulty b w t
  exact .visit asked rfl (.cons answered (.nil t')) (after b (w, t'))

end Hooks

end Stepwise
