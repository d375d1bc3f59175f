import Stepwise.Fault

/-!
Actions: work on a world that may fail and that keeps a log. What was done and logged before a
failure stays done and logged.
-/

namespace Stepwise

/-- How an action ended: its result, the world it leaves and what it logged. -/
structure Outcome (ε σ α : Type) where
  result : Except Fault α
  world : σ
  log : List ε

/-- An action on worlds of type `σ` that logs events of type `ε`. -/
def Act (ε σ α : Type) : Type := σ → Outcome ε σ α

namespace Act

variable {ε ε' σ τ α β γ : Type}

/-- The outcome of an action in a world. -/
def run (m : Act ε σ α) (s : σ) : Outcome ε σ α := m s

/-- A log put in front of an outcome. -/
def after (log : List ε) (r : Outcome ε σ α) : Outcome ε σ α := ⟨r.result, r.world, log ++ r.log⟩

protected def pure (a : α) : Act ε σ α := fun s => ⟨.ok a, s, []⟩

protected def bind (m : Act ε σ α) (f : α → Act ε σ β) : Act ε σ β := fun s =>
  match m s with
  | ⟨.ok a, s', log⟩ => after log (f a s')
  | ⟨.error e, s', log⟩ => ⟨.error e, s', log⟩

instance : Monad (Act ε σ) where
  pure := Act.pure
  bind := Act.bind

theorem after_nil (r : Outcome ε σ α) : after [] r = r := rfl

theorem after_after (k l : List ε) (r : Outcome ε σ α) : after k (after l r) = after (k ++ l) r := by
  simp [after]

/-- What follows an action that gave a result begins in the world that it left. -/
theorem bind_of_ok {m : Act ε σ α} {f : α → Act ε σ β} {s s' : σ} {a : α} {log : List ε}
    (h : m s = ⟨.ok a, s', log⟩) : (m >>= f) s = after log (f a s') := by
  simp only [bind, Act.bind, h]

/-- Nothing follows an action that failed. -/
theorem bind_of_error {m : Act ε σ α} {f : α → Act ε σ β} {s s' : σ} {e : Fault} {log : List ε}
    (h : m s = ⟨.error e, s', log⟩) : (m >>= f) s = ⟨.error e, s', log⟩ := by
  simp only [bind, Act.bind, h]

private theorem bind_pure_self (m : Act ε σ α) : Act.bind m Act.pure = m := by
  funext s
  unfold Act.bind Act.pure after
  split <;> simp_all

private theorem bind_bind (m : Act ε σ α) (f : α → Act ε σ β) (g : β → Act ε σ γ) :
    Act.bind (Act.bind m f) g = Act.bind m fun a => Act.bind (f a) g := by
  funext s
  rcases h : m s with ⟨a | a, s', log⟩
  · simp only [Act.bind, h]
  · rcases h' : f a s' with ⟨b | b, s'', log'⟩ <;> simp [Act.bind, after, h, h']

instance : LawfulMonad (Act ε σ) :=
  LawfulMonad.mk' (Act ε σ) bind_pure_self (fun _ _ => rfl) bind_bind

/-- Ends with a fault. -/
def fail (f : Fault) : Act ε σ α := fun s => ⟨.error f, s, []⟩

/-- The result of an action, a failure included. -/
def attempt (m : Act ε σ α) : Act ε σ (Except Fault α) := fun s =>
  match m s with
  | ⟨r, s', log⟩ => ⟨.ok r, s', log⟩

/-- Logs one event. -/
def say (e : ε) : Act ε σ Unit := fun s => ⟨.ok (), s, [e]⟩

/-- The world. -/
def world : Act ε σ σ := fun s => ⟨.ok s, s, []⟩

/-- Changes the world. -/
def change (f : σ → σ) : Act ε σ Unit := fun s => ⟨.ok (), f s, []⟩

/-- A result that is already there. -/
def ofExcept (r : Except Fault α) : Act ε σ α := fun s => ⟨r, s, []⟩

/-- An action on a part of the world. -/
def zoom (get : σ → τ) (put : τ → σ → σ) (m : Act ε τ α) : Act ε σ α := fun s =>
  match m (get s) with
  | ⟨r, t, log⟩ => ⟨r, put t s, log⟩

/-- An action with its events renamed. -/
def relabel (f : ε → ε') (m : Act ε σ α) : Act ε' σ α := fun s =>
  match m s with
  | ⟨r, s', log⟩ => ⟨r, s', log.map f⟩

end Act

end Stepwise
