import Mathlib.Logic.Basic
import Stepwise.Session

/-!
Computing with actions: what each way of putting actions together does in a given world, and the same
for work on parts of the world. An action is opened only here.
-/

namespace Stepwise

variable {ε ε' σ τ α β : Type}

/-- What an outcome comes to when its result is handed on. -/
def Outcome.andThen (r : Outcome ε σ α) (f : α → Act ε σ β) : Outcome ε σ β :=
  match r with
  | ⟨.ok a, s, log⟩ => Act.after log (f a s)
  | ⟨.error g, s, log⟩ => ⟨.error g, s, log⟩

@[simp] theorem Outcome.andThen_ok (a : α) (s : σ) (log : List ε) (f : α → Act ε σ β) :
    Outcome.andThen ⟨.ok a, s, log⟩ f = Act.after log (f a s) := rfl

@[simp] theorem Outcome.andThen_error (g : Fault) (s : σ) (log : List ε) (f : α → Act ε σ β) :
    Outcome.andThen ⟨.error g, s, log⟩ f = ⟨.error g, s, log⟩ := rfl

namespace Act

@[simp] theorem after_mk (log k : List ε) (r : Except Fault α) (s : σ) :
    after log ⟨r, s, k⟩ = ⟨r, s, log ++ k⟩ := rfl

@[simp] theorem bind_apply (m : Act ε σ α) (f : α → Act ε σ β) (s : σ) :
    (m >>= f) s = (m s).andThen f := rfl

@[simp] theorem pure_apply (a : α) (s : σ) : (pure a : Act ε σ α) s = ⟨.ok a, s, []⟩ := rfl

@[simp] theorem map_apply (f : α → β) (m : Act ε σ α) (s : σ) :
    (f <$> m) s = (m s).andThen fun a => pure (f a) := rfl

@[simp] theorem fail_apply (g : Fault) (s : σ) : (fail g : Act ε σ α) s = ⟨.error g, s, []⟩ := rfl

@[simp] theorem say_apply (x : ε) (s : σ) : say x s = ⟨.ok (), s, [x]⟩ := rfl

@[simp] theorem world_apply (s : σ) : (world : Act ε σ σ) s = ⟨.ok s, s, []⟩ := rfl

@[simp] theorem change_apply (f : σ → σ) (s : σ) : (change f : Act ε σ Unit) s = ⟨.ok (), f s, []⟩ := rfl

@[simp] theorem ofExcept_apply (r : Except Fault α) (s : σ) :
    (ofExcept r : Act ε σ α) s = ⟨r, s, []⟩ := rfl

@[simp] theorem attempt_apply (m : Act ε σ α) (s : σ) :
    m.attempt s = ⟨.ok (m s).result, (m s).world, (m s).log⟩ := rfl

@[simp] theorem zoom_apply (get : σ → τ) (put : τ → σ → σ) (m : Act ε τ α) (s : σ) :
    zoom get put m s = ⟨(m (get s)).result, put (m (get s)).world s, (m (get s)).log⟩ := rfl

@[simp] theorem relabel_apply (f : ε → ε') (m : Act ε σ α) (s : σ) :
    m.relabel f s = ⟨(m s).result, (m s).world, (m s).log.map f⟩ := rfl

end Act

namespace Session

@[simp] theorem onWorld_apply (m : Act Event σ α) (s : Session σ) :
    onWorld m s = ⟨(m s.world).result, { s with world := (m s.world).world }, (m s.world).log⟩ := rfl

@[simp] theorem doing_apply (m : Act Deed σ α) (s : Session σ) :
    doing m s =
      ⟨(m s.world).result, { s with world := (m s.world).world }, (m s.world).log.map .deed⟩ := rfl

@[simp] theorem tell_apply (tone : Tone) (text : String) (s : Session σ) :
    tell tone text s = ⟨.ok (), s, [.deed (.show tone text)]⟩ := rfl

@[simp] theorem note_apply (source : Source) (text : String) (s : Session σ) :
    note source text s = ⟨.ok (), s, [.deed (.diagnostic .debug source text)]⟩ := rfl

@[simp] theorem outputsSoFar_apply (s : Session σ) : outputsSoFar s = ⟨.ok s.outputs, s, []⟩ := rfl

@[simp] theorem record_apply (v : Value) (s : Session σ) :
    record v s = ⟨.ok (), { s with outputs := s.outputs.append v }, []⟩ := rfl

@[simp] theorem enter_apply (p : Phase) (s : Session σ) :
    enter p s = ⟨.ok (), { s with phase := p }, []⟩ := rfl

end Session

end Stepwise
