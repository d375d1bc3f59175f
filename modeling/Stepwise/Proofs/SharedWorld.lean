import Mathlib.Data.List.Basic
import Stepwise.Assistant
import Stepwise.Proofs.Actions

/-!
A world with a memory beside it. Whatever works on a world can as well work on it while somebody keeps a
memory there, which it neither reads nor changes; so a plugin with a memory of its own can be put among the
plugins of an engine at any position, and nothing else about the engine is another for that.
-/

namespace Stepwise

variable {ε σ τ α β : Type}

namespace Act

/-- Work on a world that has a memory beside it. -/
def beside (m : Act ε σ α) : Act ε (σ × τ) α := zoom Prod.fst (fun w s => (w, s.2)) m

@[simp] theorem beside_apply (m : Act ε σ α) (s : σ × τ) :
    m.beside s = ⟨(m s.1).result, ((m s.1).world, s.2), (m s.1).log⟩ := rfl

@[simp] theorem beside_pure (a : α) : (pure a : Act ε σ α).beside = (pure a : Act ε (σ × τ) α) := rfl

@[simp] theorem beside_bind (m : Act ε σ α) (f : α → Act ε σ β) :
    ((m >>= f).beside : Act ε (σ × τ) β) = m.beside >>= fun a => (f a).beside := by
  funext s
  rcases h : m s.1 with ⟨g | a, w, log⟩
  · simp [h]
  · simp [h, Act.after]

@[simp] theorem beside_map (f : α → β) (m : Act ε σ α) :
    ((f <$> m).beside : Act ε (σ × τ) β) = f <$> m.beside := by
  rw [← bind_pure_comp, beside_bind]
  simp

@[simp] theorem beside_fail (f : Fault) :
    (fail f : Act ε σ α).beside = (fail f : Act ε (σ × τ) α) := rfl

@[simp] theorem beside_say (x : ε) : (say x : Act ε σ Unit).beside = (say x : Act ε (σ × τ) Unit) := rfl

@[simp] theorem beside_ofExcept (r : Except Fault α) :
    (ofExcept r : Act ε σ α).beside = (ofExcept r : Act ε (σ × τ) α) := rfl

end Act

/-- A plugin where there is a memory beside the world. -/
def Plugin.beside (p : Plugin σ) : Plugin (σ × τ) := ⟨p.name, fun call => (p.hook call).map Act.beside⟩

theorem Plugin.answer_beside (p : Plugin σ) (call : HookCall) :
    (p.beside : Plugin (σ × τ)).answer call = (p.answer call).beside := by
  unfold answer beside
  cases h : p.hook call <;> simp [h]

theorem Plugin.planEcho_beside (wanted : Bool) :
    (planEcho wanted : Plugin σ).beside = (planEcho wanted : Plugin (σ × τ)) := by
  unfold planEcho beside
  congr
  funext call
  cases call with
  | afterParse plan =>
    simp only [Option.map_some, Option.some.injEq]
    split <;> rfl
  | _ => rfl

/-- What stands behind a capability, where there is a memory beside the world. -/
def Handler.beside : Handler σ → Handler (σ × τ)
  | .value v => .value v
  | .method deferred call => .method deferred fun args => (call args).beside
  | .teller tell => .teller tell
  | .builtin b => .builtin b

@[simp] theorem Handler.isCallable_beside (h : Handler σ) :
    (h.beside : Handler (σ × τ)).isCallable = h.isCallable := by
  cases h <;> rfl

@[simp] theorem Handler.asValue_beside (h : Handler σ) :
    (h.beside : Handler (σ × τ)).asValue = h.asValue := by
  cases h <;> rfl

/-- An entry of the catalogue, where there is a memory beside the world. -/
def Entry.beside (x : Entry σ) : Entry (σ × τ) :=
  ⟨x.base, x.index, x.params, x.kind, x.description, x.handler.beside⟩

@[simp] theorem Entry.kind_beside (x : Entry σ) : (x.beside : Entry (σ × τ)).kind = x.kind := rfl

@[simp] theorem Entry.handler_beside (x : Entry σ) :
    (x.beside : Entry (σ × τ)).handler = x.handler.beside := rfl

@[simp] theorem Entry.name_beside (x : Entry σ) : (x.beside : Entry (σ × τ)).name = x.name := rfl

@[simp] theorem Entry.line_beside (x : Entry σ) (n : ℕ) :
    (x.beside : Entry (σ × τ)).line n = x.line n := rfl

namespace Catalogue

/-- A catalogue, where there is a memory beside the world. -/
def beside (c : Catalogue σ) : Catalogue (σ × τ) := ⟨c.root, c.entries.map Entry.beside, c.extensions⟩

@[simp] theorem root_beside (c : Catalogue σ) : (c.beside : Catalogue (σ × τ)).root = c.root := rfl

@[simp] theorem opening_beside (c : Catalogue σ) :
    (c.beside : Catalogue (σ × τ)).opening = c.opening := rfl

theorem find?_beside (c : Catalogue σ) (name : String) :
    (c.beside : Catalogue (σ × τ)).find? name = (c.find? name).map Entry.beside := by
  unfold find? beside
  rw [List.find?_map]
  rfl

theorem resolve_beside (c : Catalogue σ) (name : String) (space : Option String) :
    (c.beside : Catalogue (σ × τ)).resolve name space = (c.resolve name space).map Entry.beside := by
  unfold resolve
  cases space with
  | none => exact find?_beside c name
  | some s =>
    by_cases h : s = c.root
    · simp [h, find?_beside]
    · simp [h]

theorem linesFrom_beside (n : ℕ) (entries : List (Entry σ)) :
    linesFrom n (entries.map Entry.beside : List (Entry (σ × τ))) = linesFrom n entries := by
  induction entries generalizing n with
  | nil => rfl
  | cons x entries ih => simp [linesFrom, ih]

/-- The catalogue reads the same. -/
@[simp] theorem text_beside (c : Catalogue σ) : (c.beside : Catalogue (σ × τ)).text = c.text := by
  unfold text describe beside
  rw [linesFrom_beside]

end Catalogue

/-- The collaborators, where there is a memory beside the world. -/
def Host.beside (h : Host σ) : Host (σ × τ) where
  complete messages := (h.complete messages).beside
  command seconds text := (h.command seconds text).beside
  execute outputs code := (h.execute outputs code).beside
  files s := h.files s.1
  putFiles tree s := (h.putFiles tree s.1, s.2)
  preceding := h.preceding.map fun q s => (q s).beside

namespace Engine

/-- The engine with one more plugin, which keeps a memory beside the world: it is called at the given
position among the others. -/
def install (e : Engine σ) (position : ℕ) (p : Settings → Plugin (σ × τ)) : Engine (σ × τ) :=
  let host : Host (σ × τ) := e.host.beside
  let plugins := e.plugins.map fun q s => (q s).beside
  let count := host.preceding.length
  let early := position ≤ count
  { settings := e.settings
    site := e.site
    catalogue := e.catalogue.beside
    plugins :=
      if early then plugins
      else plugins.take (position - count - 1) ++ p :: plugins.drop (position - count - 1)
    host :=
      { host with
        preceding :=
          if early then host.preceding.take position ++ p :: host.preceding.drop position
          else host.preceding } }

variable (e : Engine σ) (position : ℕ) (p : Settings → Plugin (σ × τ))

@[simp] theorem install_settings : (e.install position p).settings = e.settings := rfl

@[simp] theorem install_site : (e.install position p).site = e.site := rfl

@[simp] theorem install_catalogue : (e.install position p).catalogue = e.catalogue.beside := rfl

/-- The plugin takes its position, and the others keep their order. -/
theorem participants_install :
    (e.install position p).participants =
      (e.participants.take position).map Plugin.beside ++
        p e.settings :: (e.participants.drop position).map Plugin.beside := by
  by_cases early : position ≤ e.host.preceding.length
  · have before_echo : position - e.host.preceding.length = 0 := Nat.sub_eq_zero_of_le early
    simp [participants, install, Host.beside, early, before_echo, List.take_append, List.drop_append,
      Plugin.planEcho_beside, List.map_take, List.map_drop, Function.comp_def]
  · obtain ⟨k, rfl⟩ := Nat.exists_eq_add_of_lt (Nat.not_le.mp early)
    have past_echo : e.host.preceding.length + k + 1 - e.host.preceding.length = k + 1 := by omega
    have all_before : e.host.preceding.length ≤ e.host.preceding.length + k + 1 := by omega
    simp [participants, install, Host.beside, early, past_echo, all_before, List.take_append, List.drop_append,
      List.take_of_length_le, List.drop_of_length_le, Plugin.planEcho_beside, List.map_take,
      List.map_drop, Function.comp_def]

/-- The provider is asked as before. -/
@[simp] theorem complete_install (purpose : Purpose) (messages : List Message) :
    (e.install position p).complete purpose messages = (e.complete purpose messages).beside := by
  simp [complete, install, Host.beside]

/-- Commands are run as before. -/
@[simp] theorem command_install (text : String) :
    (e.install position p).command text = (e.command text).beside := by
  simp [command, install, Host.beside]

/-- Answers are shown as before. -/
@[simp] theorem answer_install (text : String) :
    (e.install position p).answer text = (e.answer text).beside := by
  unfold answer
  rw [install_settings]
  split <;> rfl

end Engine

section

variable (e : Engine σ) (position : ℕ) (p : Settings → Plugin (σ × τ))

theorem Toolbox.executeCommand_install (command : Value) :
    executeCommand (e.install position p) command = (executeCommand e command).beside := by
  simp only [executeCommand, Act.beside_bind, Act.beside_say, Engine.command_install]
  congr
  funext _
  congr
  funext r
  by_cases success : r.success
  · by_cases silent : r.stdout.isEmpty <;> simp [success, silent]
  · simp [success]

theorem Toolbox.requestAi_install (description prompt : Value) :
    requestAi (e.install position p) description prompt = (requestAi e description prompt).beside := by
  simp [requestAi]

/-- A built-in function does what it did. -/
theorem Toolbox.call_install (outputs : Outputs) (b : Builtin) (args : List Value) :
    call (e.install position p) outputs b args = (call e outputs b args).beside := by
  unfold call
  split
  · rfl
  · cases b with
    | executeCommand => exact executeCommand_install e position p _
    | requestAi => exact requestAi_install e position p _ _
    | _ => rfl

theorem Engine.callHandler_install (outputs : Outputs) (name : String) (h : Handler σ)
    (args : List Value) :
    (e.install position p).callHandler outputs name h.beside args =
      (e.callHandler outputs name h args).beside := by
  cases h with
  | method deferred call => simp [callHandler, Handler.beside]
  | builtin b => exact Toolbox.call_install e position p outputs b args
  | _ => rfl

/-- A capability is called as before. -/
theorem Engine.invoke_install (outputs : Outputs) (x : Entry σ) (args : List Value) :
    (e.install position p).invoke outputs x.beside args = (e.invoke outputs x args).beside := by
  unfold invoke
  rw [Entry.kind_beside, Entry.handler_beside, Handler.isCallable_beside]
  by_cases taken : x.kind = .value ∧ args.isEmpty
  · rw [if_pos taken, if_pos taken, Handler.asValue_beside, Act.beside_pure]
  · rw [if_neg taken, if_neg taken]
    by_cases fixed : x.kind = .value ∧ !x.handler.isCallable
    · rw [if_pos fixed, if_pos fixed, Entry.name_beside, Act.beside_fail]
    · rw [if_neg fixed, if_neg fixed]
      exact callHandler_install e position p outputs x.base x.handler args

/-- A call from a plan is carried out as before. -/
theorem Engine.perform_install (outputs : Outputs) (c : Call) :
    (e.install position p).perform outputs c = (e.perform outputs c).beside := by
  unfold perform
  rw [install_catalogue, Catalogue.resolve_beside]
  cases e.catalogue.resolve c.function (some c.space) with
  | none => rfl
  | some x => simp [invoke_install]

/-- A step does with its content what it did. -/
theorem Dispatch.execute_install (outputs : Outputs) (kind : StepKind) (content : String) :
    execute (e.install position p) outputs kind content = (execute e outputs kind content).beside := by
  have answered : answer (e.install position p) content = (answer e content).beside := by
    simp [answer]
  have commanded : command (e.install position p) content = (command e content).beside := by
    simp only [command, Engine.command_install, Act.beside_bind]
    congr
    funext r
    by_cases success : r.success
    · by_cases silent : r.stdout.isEmpty <;> simp [success, silent]
    · simp [success]
  have direct : directCall? (e.install position p) content = directCall? e content := rfl
  have carried : ∀ c, carryOut (e.install position p) outputs c = (carryOut e outputs c).beside := by
    intro c
    cases c with
    | ok c => exact e.perform_install position p outputs c
    | error f => rfl
  cases kind with
  | call =>
    simp only [execute, Engine.install_catalogue, Catalogue.root_beside]
    cases read : Call.parse e.catalogue.root content with
    | ok c => exact e.perform_install position p outputs c
    | error r => cases r <;> simp [answered]
  | command =>
    simp only [execute, direct]
    cases directCall? e content with
    | some c => exact carried c
    | none => exact commanded
  | code =>
    simp only [execute, direct]
    cases directCall? e content with
    | some c => exact carried c
    | none => rfl
  | answer => exact answered
  | recurse => exact answered

/-- A request is put to the provider as before. -/
theorem Assistant.messagesFor_install (history : List Message) (request : String) :
    messagesFor (e.install position p) history request = messagesFor e history request := by
  simp [messagesFor, promptFor]

end

end Stepwise
