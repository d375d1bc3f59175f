import Mathlib.Data.List.DropRight
import Stepwise.Conversation
import Stepwise.Proofs.ConversationHistory

/-!
What the user of a session brings about, one thing after the other: nothing, the forgetting of the conversation,
or a talk, which is a request with all that became of it. The history in which a talk begins holds the turns that
were recorded since the conversation was last forgotten, and nothing else.
-/

namespace Stepwise.Conversation

open Assistant

variable {σ : Type} {e : Engine σ} {s s' s'' : Session σ}

/-- A request of the user with what became of it: the session in which it was made, the runs that it led to, its
result, the session that was left, and the log. -/
structure Talk (σ : Type) where
  request : String
  session : Session σ
  chain : List (Account σ)
  result : Except Fault Ending
  left : Session σ
  log : List Event

namespace Talk

variable {talk : Talk σ}

variable (e) in
/-- A talk that is a run of the assistant, with the chain of runs behind it. -/
structure Holds (talk : Talk σ) : Prop where
  chained : Chain e e.settings.levels talk.request talk.session talk.chain talk.result talk.left talk.log
  run_eq : Assistant.run e talk.request talk.session = ⟨talk.result, talk.left, talk.log⟩

/-- The exchanges that the runs of a talk recorded, those of the inner runs first. -/
def turns (talk : Talk σ) : List Message := turnsOf (talk.chain.filterMap Account.exchange?).reverse

/-- The line about a talk that failed. -/
def report (talk : Talk σ) : List Event :=
  match talk.result with
  | .ok _ => []
  | .error f => [.requestFailed f]

/-- What the provider is asked for in the course of a talk. -/
def sent (talk : Talk σ) : List (List Message) := talk.chain.map fun a => a.inquiry.sent

variable (e) in
/-- The first run of a talk asks for its plan with this history; the plugins may change that on its way to the
provider. -/
def Asks (talk : Talk σ) (history : List Message) : Prop :=
  ∃ a rest, talk.chain = a :: rest ∧ a.request = talk.request ∧ a.session = talk.session ∧
    a.inquiry.asked = ⟨.system, Prompt.system⟩ :: history ++ [⟨.user, promptFor e talk.request⟩] ∧
    ∃ w hooks, Hooks.beforeRequest e.participants a.inquiry.asked talk.session.world =
      ⟨.ok a.inquiry.sent, w, hooks⟩

/-- Any request in any session becomes a talk. -/
theorem exists_holds (e : Engine σ) (request : String) (s : Session σ) :
    ∃ talk : Talk σ, talk.Holds e ∧ talk.request = request ∧ talk.session = s := by
  obtain ⟨chain, result, s', log, h, hrun⟩ := run_chain e request s
  exact ⟨⟨request, s, chain, result, s', log⟩, ⟨h, hrun⟩, rfl, rfl⟩

@[simp] theorem planRequests_report (talk : Talk σ) : planRequests talk.report = [] := by
  unfold report
  cases talk.result <;> rfl

end Talk

/-- The runs of a chain record what `turns` tells, in addition to the history so far. -/
theorem recorded_of_chain {n : ℕ} {request : String} {chain : List (Account σ)} {result : Except Fault Ending}
    {log : List Event} (h : Chain e n request s chain result s' log) :
    s'.history = s.history ++ turnsOf (chain.filterMap Account.exchange?).reverse := by
  induction h with
  | @last n request s s' a log answered stays =>
    obtain ⟨hhistory, -⟩ := answered.of_stays (further_refuses e n) stays
    rw [hhistory, a.turns_eq]
    cases exchanged : a.exchange? with
    | none => simp only [List.filterMap_cons, exchanged, List.filterMap_nil, Option.toList_none, List.reverse_nil]
    | some p =>
      simp only [List.filterMap_cons, exchanged, List.filterMap_nil, Option.toList_some,
        List.reverse_singleton]
  | @link n request s s' t a r chain result log nested answered member ceded inner ih =>
    obtain ⟨hhistory, -⟩ := Chain.of_link answered member ceded inner
    have ready := answered.ready_history (further_refuses e _) r member
    rw [hhistory, ih, deeper_history, ready, a.turns_eq, List.append_assoc, ← turnsOf_append]
    cases exchanged : a.exchange? with
    | none => simp only [List.filterMap_cons, exchanged, Option.toList_none, List.append_nil]
    | some p =>
      simp only [List.filterMap_cons, exchanged, Option.toList_some, List.reverse_cons]

namespace Talk.Holds

variable {talk : Talk σ}

theorem history_eq (h : talk.Holds e) : talk.left.history = talk.session.history ++ talk.turns :=
  recorded_of_chain h.chained

theorem depth_eq (h : talk.Holds e) : talk.left.depth = talk.session.depth := h.chained.depth_eq

theorem planRequests_log (h : talk.Holds e) : planRequests talk.log = talk.sent := h.chained.planRequests_eq

/-- A talk that fails records nothing. -/
theorem turns_of_error (h : talk.Holds e) {f : Fault} (failed : talk.result = .error f) : talk.turns = [] := by
  have same := h.chained.remembered.failed f failed
  rw [h.history_eq] at same
  exact List.append_right_eq_self.mp same

theorem asks (h : talk.Holds e) : Asks e talk talk.session.history := by
  obtain ⟨a, rest, hchain, hrequest, hsession, -⟩ := h.chained.head_eq
  have member : a ∈ talk.chain := hchain ▸ List.mem_cons_self
  obtain ⟨asked, -, sent⟩ := h.chained.remembered.asked a member
  rw [hrequest] at asked
  rw [hsession] at sent
  exact ⟨a, rest, hchain, hrequest, hsession, asked, sent⟩

end Talk.Holds

/-- What comes of one thing that the user says. -/
inductive Doing (σ : Type)
  | passed
  | forgot
  | ran (talk : Talk σ)

namespace Doing

variable {d : Doing σ} {ds : List (Doing σ)}

/-- The log of a doing; the failure of a talk is reported after it. -/
def log : Doing σ → List Event
  | passed => []
  | forgot => [.deed (.show .info "Conversation cleared.")]
  | ran talk => talk.log ++ talk.report

/-- What a doing records. -/
def turns : Doing σ → List Message
  | ran talk => talk.turns
  | _ => []

/-- What the provider is asked for in the course of a doing. -/
def sent : Doing σ → List (List Message)
  | ran talk => talk.sent
  | _ => []

/-- Whether a doing makes the conversation forgotten. -/
def forgets : Doing σ → Bool
  | forgot => true
  | _ => false

variable (e) in
/-- How a doing leads from one session to the next. -/
inductive Step : Session σ → Doing σ → Session σ → Prop
  | passed {s : Session σ} : Step s .passed s
  | forgot {s : Session σ} : Step s .forgot { s with history := [] }
  | ran {talk : Talk σ} (holds : talk.Holds e) : Step talk.session (.ran talk) talk.left

variable (e) in
/-- How doings lead from one session to another. -/
inductive Steps : Session σ → List (Doing σ) → Session σ → Prop
  | nil {s : Session σ} : Steps s [] s
  | cons {s s' s'' : Session σ} {d : Doing σ} {ds : List (Doing σ)} (step : Step e s d s')
      (rest : Steps s' ds s'') : Steps s (d :: ds) s''

/-- What is remembered after doings: the turns recorded since the conversation was last forgotten. -/
def remembered (ds : List (Doing σ)) : List Message := (ds.rtakeWhile fun d => !d.forgets).flatMap turns

theorem remembered_concat (ds : List (Doing σ)) (d : Doing σ) :
    remembered (ds ++ [d]) = if d.forgets then [] else remembered ds ++ d.turns := by
  unfold remembered
  rw [List.rtakeWhile_concat]
  cases d.forgets with
  | true => rfl
  | false =>
    simp only [Bool.not_false, if_true, Bool.false_eq_true, if_false, List.flatMap_append,
      List.flatMap_singleton]

namespace Step

theorem history_eq (h : Step e s d s') : s'.history = if d.forgets then [] else s.history ++ d.turns := by
  cases h with
  | passed => exact (List.append_nil _).symm
  | forgot => rfl
  | ran holds => exact holds.history_eq

theorem depth_eq (h : Step e s d s') : s'.depth = s.depth := by
  cases h with
  | passed => rfl
  | forgot => rfl
  | ran holds => exact holds.depth_eq

theorem planRequests_log (h : Step e s d s') : planRequests d.log = d.sent := by
  cases h with
  | passed => rfl
  | forgot => rfl
  | @ran talk holds =>
    rw [log, planRequests_append, holds.planRequests_log, talk.planRequests_report, List.append_nil]
    rfl

end Step

namespace Steps

/-- What is remembered when doings begin is part of what is remembered when they end. -/
theorem history_eq (h : Steps e s ds s') {before : List (Doing σ)} (start : s.history = remembered before) :
    s'.history = remembered (before ++ ds) := by
  induction h generalizing before with
  | nil => rw [start, List.append_nil]
  | @cons s s' s'' d ds step rest ih =>
    have next : s'.history = remembered (before ++ [d]) := by
      rw [step.history_eq, remembered_concat, start]
    rw [ih next, List.append_assoc, List.singleton_append]

theorem depth_eq (h : Steps e s ds s') : s'.depth = s.depth := by
  induction h with
  | nil => rfl
  | cons step rest ih => rw [ih, step.depth_eq]

theorem planRequests_log (h : Steps e s ds s') : planRequests (ds.flatMap log) = ds.flatMap sent := by
  induction h with
  | nil => rfl
  | cons step rest ih =>
    rw [List.flatMap_cons, List.flatMap_cons, planRequests_append, step.planRequests_log, ih]

/-- Each doing begins in the session that the ones before it left. -/
theorem split {pre post : List (Doing σ)} (h : Steps e s (pre ++ d :: post) s') :
    ∃ t t', Steps e s pre t ∧ Step e t d t' ∧ Steps e t' post s' := by
  induction pre generalizing s with
  | nil =>
    cases h with
    | cons step rest => exact ⟨_, _, .nil, step, rest⟩
  | cons first pre ih =>
    cases h with
    | cons step rest =>
      obtain ⟨t, t', earlier, now, later⟩ := ih rest
      exact ⟨t, t', .cons step earlier, now, later⟩

/-- A talk begins with what is remembered of the doings before it, and no run encloses it. -/
theorem talk_of_split {talk : Talk σ} {pre post : List (Doing σ)}
    (h : Steps e s (pre ++ .ran talk :: post) s') (start : s.history = []) :
    talk.Holds e ∧ talk.session.history = remembered pre ∧ talk.session.depth = s.depth := by
  obtain ⟨t, t', earlier, now, -⟩ := h.split
  have remembers : t.history = remembered ([] ++ pre) := earlier.history_eq start
  have depth := earlier.depth_eq
  cases now with
  | ran holds => exact ⟨holds, remembers, depth⟩

end Steps

end Doing

end Stepwise.Conversation
