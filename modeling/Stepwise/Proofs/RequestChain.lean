import Mathlib.Data.List.Basic
import Stepwise.Proofs.Handover

/-!
The chain of nested runs. A run whose last step handed over is followed in its chain by the run that took
over, one level deeper. Every request has its chain, which ends before runs are nested more deeply than
they may be; and further levels of recursion would change nothing, so answering requests satisfies its
recursive equation without any bound.
-/

namespace Stepwise.Assistant

open Dispatch

variable {σ : Type}

/-- The session in which a further request starts. -/
def deeper (s : Session σ) : Session σ := { s with depth := s.depth + 1 }

@[simp] theorem deeper_depth (s : Session σ) : (deeper s).depth = s.depth + 1 := rfl

@[simp] theorem deeper_history (s : Session σ) : (deeper s).history = s.history := rfl

/-- The session after a further request. -/
def shallower (s : Session σ) : Session σ := { s with depth := s.depth - 1 }

/-- The line that reports the failure of a further request. -/
def complaint : Except Fault Ending → List Event
  | .ok _ => []
  | .error f => [.nestedFailed f]

@[simp] theorem heard_complaint (position : ℕ) (result : Except Fault Ending) :
    heard position (complaint result) = [] := by
  cases result <;> rfl

variable (e : Engine σ)

/-- A further request runs one level deeper, and its failure is only reported. -/
theorem nested_apply (m : Act Event (Session σ) Ending) (s : Session σ) :
    nested m s = ⟨.ok (), shallower (m (deeper s)).world,
      (m (deeper s)).log ++ complaint (m (deeper s)).result⟩ := by
  unfold nested
  cases h : (m (deeper s)).result <;> simp_all [deeper, shallower, complaint]

theorem recurse_of_le (answer : String → Act Event (Session σ) Ending) (content : String)
    {s : Session σ} (h : e.settings.levels ≤ s.depth) :
    recurse e answer content s = ⟨.error e.settings.refusal, s, []⟩ := by
  simp [recurse, h]

theorem recurse_of_lt (answer : String → Act Event (Session σ) Ending) (content : String)
    {s : Session σ} (h : s.depth < e.settings.levels) :
    recurse e answer content s = nested (answer content) s := by
  simp [recurse, Nat.not_le.mpr h, Act.after_nil]

/-- A further request fails only where it is refused. -/
theorem le_of_recurse_error {answer : String → Act Event (Session σ) Ending} {content : String}
    {s s' : Session σ} {f : Fault} {log : List Event}
    (h : recurse e answer content s = ⟨.error f, s', log⟩) : e.settings.levels ≤ s.depth := by
  by_contra hlt
  rw [recurse_of_lt e answer content (Nat.not_le.mp hlt), nested_apply] at h
  cases h

theorem recurse_refuses (answer : String → Act Event (Session σ) Ending) :
    Refuses (recurse e answer) := by
  intro content s f s' log h
  rw [recurse_of_le e answer content (le_of_recurse_error e h)] at h
  cases h
  exact ⟨rfl, rfl⟩

/-- How a further request is answered with so many levels left. -/
def lower : ℕ → String → Act Event (Session σ) Ending
  | 0 => fun _ => Act.fail .tooDeep
  | levels + 1 => answer e levels

/-- What a plan hands over to with so many levels left. -/
def further (n : ℕ) : Callback σ := recurse e (lower e n)

theorem further_refuses (n : ℕ) : Refuses (further e n) := recurse_refuses e (lower e n)

theorem further_of_le (n : ℕ) (content : String) {s : Session σ} (h : e.settings.levels ≤ s.depth) :
    further e n content s = ⟨.error e.settings.refusal, s, []⟩ :=
  recurse_of_le e (lower e n) content h

theorem further_of_lt (n : ℕ) (content : String) {s : Session σ} (h : s.depth < e.settings.levels) :
    further e (n + 1) content s = nested (answer e n content) s :=
  recurse_of_lt e (lower e (n + 1)) content h

theorem le_of_further_error {n : ℕ} {content : String} {s s' : Session σ} {f : Fault}
    {log : List Event} (h : further e n content s = ⟨.error f, s', log⟩) :
    e.settings.levels ≤ s.depth :=
  le_of_recurse_error e h

theorem answer_eq (n : ℕ) : answer e n = answerWith e (further e n) := by
  cases n <;> rfl

/-- The runs that a request leads to, from the first to the deepest one: their accounts, the result of
the first one, the session that is left, and the log. -/
inductive Chain : ℕ → String → Session σ → List (Account σ) → Except Fault Ending → Session σ →
    List Event → Prop
  | last {n : ℕ} {request : String} {s s' : Session σ} {a : Account σ} {log : List Event}
      (answered : Answered e request s (further e n) a s' log)
      (stays : ∀ r ∈ a.records, r.fate ≠ .handedOver) :
      Chain n request s [a] a.result s' log
  | link {n : ℕ} {request : String} {s s' t : Session σ} {a : Account σ} {r : Record σ}
      {chain : List (Account σ)} {result : Except Fault Ending} {log nested : List Event}
      (answered : Answered e request s (further e (n + 1)) a s' log)
      (member : r ∈ a.records) (ceded : r.fate = .handedOver)
      (inner : Chain n r.step.content (deeper r.ready) chain result t nested) :
      Chain (n + 1) request s (a :: chain) a.result s' log

variable {e} {n : ℕ} {request : String} {s s' : Session σ} {a : Account σ}
variable {chain : List (Account σ)} {result : Except Fault Ending} {log : List Event}

/-- Answering a request is what its chain says. -/
theorem answer_of_chain (h : Chain e n request s chain result s' log) :
    answer e n request s = ⟨result, s', log⟩ := by
  rw [answer_eq]
  cases h with
  | last answered stays => exact answerWith_of_answered answered
  | link answered member ceded inner => exact answerWith_of_answered answered

namespace Answered

/-- A run that did not hand over only adds its exchange. -/
theorem of_stays {callback : Callback σ} (h : Answered e request s callback a s' log)
    (refuses : Refuses callback) (stays : ∀ r ∈ a.records, r.fate ≠ .handedOver) :
    s'.history = s.history ++ a.turns ∧ s'.depth = s.depth ∧
      a.records.flatMap Record.nested = [] := by
  cases h with
  | failed asked found =>
    rw [asked.session_eq]
    exact ⟨by simp [Account.turns, found], rfl, rfl⟩
  | answered asked found walk =>
    obtain ⟨hhistory, hdepth, hnested⟩ := walk.frame_of_stays refuses stays
    rw [asked.session_eq] at hhistory hdepth
    exact ⟨by simp [Account.turns, found, hhistory, cleared], hdepth, hnested⟩

/-- The session of each step has the history that the run started with. -/
theorem ready_history {callback : Callback σ} (h : Answered e request s callback a s' log) (refuses : Refuses callback) :
    ∀ r ∈ a.records, r.ready.history = s.history := by
  cases h with
  | failed asked found => exact fun r hr => absurd hr List.not_mem_nil
  | answered asked found walk =>
    intro r hr
    obtain ⟨hhistory, -⟩ := walk.ready_frame refuses r hr
    rw [asked.session_eq] at hhistory
    exact hhistory

/-- A run that handed over leaves what the further request leaves, with its own exchange added. -/
theorem of_over {callback : Callback σ} (h : Answered e request s callback a s' log)
    (refuses : Refuses callback) {r : Record σ} (member : r ∈ a.records)
    (ceded : r.fate = .handedOver) :
    ∃ t, callback r.step.content r.ready = ⟨.ok (), t, r.nested⟩ ∧
      r.ready.history = s.history ∧ r.ready.depth = s.depth ∧
      s'.history = t.history ++ a.turns ∧ s'.depth = t.depth ∧
      a.records.flatMap Record.nested = r.nested := by
  cases h with
  | failed asked found => exact absurd member List.not_mem_nil
  | answered asked found walk =>
    obtain ⟨t, called, hhistory, hdepth, hnested⟩ := walk.frame_of_over refuses member ceded
    obtain ⟨hready, hready'⟩ := walk.ready_frame refuses r member
    rw [asked.session_eq] at hready hready'
    exact ⟨t, called, hready, hready', by simp [Account.turns, found, hhistory], hdepth, hnested⟩

/-- A step that asks for a further request without handing over was refused. -/
theorem refusal {callback : Callback σ} (h : Answered e request s callback a s' log)
    (refuses : Refuses callback) {r : Record σ} (member : r ∈ a.records)
    (kind : r.step.kind = .recurse) (on : r.fate ≠ .handedOver) :
    ∃ f, callback r.step.content r.ready = ⟨.error f, r.ready, []⟩ ∧ r.fate = .failed f ∧
      r.nested = [] ∧ r.after = [.stepFailed r.index f] := by
  cases h with
  | failed asked found => exact absurd member List.not_mem_nil
  | answered asked found walk =>
    obtain ⟨_, _, _, _, begun⟩ := walk.begun_of_mem member
    exact begun.refusal refuses kind on

/-- At most one step of a run hands over. -/
theorem over_unique {callback : Callback σ} (h : Answered e request s callback a s' log)
    {r r' : Record σ} (member : r ∈ a.records) (ceded : r.fate = .handedOver)
    (member' : r' ∈ a.records) (ceded' : r'.fate = .handedOver) : r = r' := by
  cases h with
  | failed asked found => exact absurd member List.not_mem_nil
  | answered asked found walk => exact walk.over_unique member ceded member' ceded'

/-- Only what further requests do for the steps of the run matters. -/
theorem congr {callback callback' : Callback σ} (h : Answered e request s callback a s' log)
    (same : ∀ r ∈ a.records, r.step.kind = .recurse →
      callback' r.step.content r.ready = callback r.step.content r.ready) :
    Answered e request s callback' a s' log := by
  cases h with
  | failed asked found => exact .failed asked found
  | answered asked found walk => exact .answered asked found (walk.congr same)

/-- A run that is nested as deeply as runs may be hands nothing over. -/
theorem stays_of_le (h : Answered e request s (further e n) a s' log)
    (deep : e.settings.levels ≤ s.depth) : ∀ r ∈ a.records, r.fate ≠ .handedOver := by
  intro r member ceded
  obtain ⟨t, called, -, hdepth, -⟩ := h.of_over (further_refuses e n) member ceded
  rw [further_of_le e n r.step.content (hdepth ▸ deep)] at called
  cases called

end Answered

namespace Chain

/-- Runs hand over only where they are not nested too deeply. -/
theorem lt_of_link (answered : Answered e request s (further e n) a s' log) {r : Record σ}
    (member : r ∈ a.records) (ceded : r.fate = .handedOver) : s.depth < e.settings.levels := by
  by_contra hle
  exact answered.stays_of_le (Nat.not_lt.mp hle) r member ceded

/-- Each run has its place in the chain, and the chain ends where runs may not be nested more deeply. -/
theorem length_le (h : Chain e n request s chain result s' log) :
    chain.length ≤ e.settings.levels - s.depth + 1 := by
  induction h with
  | last answered stays => exact Nat.le_add_left 1 _
  | link answered member ceded inner ih =>
    have hlt := lt_of_link answered member ceded
    obtain ⟨t, -, -, hdepth, -⟩ := answered.of_over (further_refuses e _) member ceded
    rw [deeper_depth, hdepth] at ih
    rw [List.length_cons]
    omega

/-- The depths of the runs in a chain count up. -/
theorem depths_eq (h : Chain e n request s chain result s' log) :
    chain.map (fun a => a.session.depth) = List.range' s.depth chain.length := by
  induction h with
  | last answered stays => simp [answered.session_eq]
  | link answered member ceded inner ih =>
    obtain ⟨t, -, -, hdepth, -⟩ := answered.of_over (further_refuses e _) member ceded
    rw [deeper_depth, hdepth] at ih
    simp [answered.session_eq, ih, List.range'_succ]

/-- What the further request of a run leaves, when its own chain is known. -/
theorem of_link (answered : Answered e request s (further e (n + 1)) a s' log) {r : Record σ}
    (member : r ∈ a.records) (ceded : r.fate = .handedOver) {t : Session σ} {nested : List Event}
    (inner : Chain e n r.step.content (deeper r.ready) chain result t nested) :
    s'.history = t.history ++ a.turns ∧ s'.depth = t.depth - 1 ∧
      a.records.flatMap Record.nested = nested ++ complaint result := by
  have hlt := lt_of_link answered member ceded
  obtain ⟨t', called, -, hdepth, hhistory, hdepth', hnested⟩ :=
    answered.of_over (further_refuses e _) member ceded
  have hfurther : further e (n + 1) r.step.content r.ready =
      ⟨.ok (), shallower t, nested ++ complaint result⟩ := by
    rw [further_of_lt e _ _ (hdepth ▸ hlt), nested_apply, answer_of_chain inner]
  obtain ⟨-, rfl, hlog⟩ := Outcome.mk.inj (hfurther.symm.trans called)
  exact ⟨hhistory, hdepth', hnested.trans hlog.symm⟩

/-- Answering a request leaves the depth as it was. -/
theorem depth_eq (h : Chain e n request s chain result s' log) : s'.depth = s.depth := by
  induction h with
  | last answered stays => exact (answered.of_stays (further_refuses e _) stays).2.1
  | link answered member ceded inner ih =>
    obtain ⟨-, hdepth, -⟩ := of_link answered member ceded inner
    obtain ⟨t, -, -, hready, -⟩ := answered.of_over (further_refuses e _) member ceded
    rw [hdepth, ih, deeper_depth, hready]
    rfl

/-- The plans that are asked for are those of the runs in the chain, one each. -/
theorem planRequests_eq (h : Chain e n request s chain result s' log) :
    planRequests log = chain.map fun a => a.inquiry.sent := by
  induction h with
  | last answered stays =>
    rw [answered.planRequests_log, (answered.of_stays (further_refuses e _) stays).2.2]
    rfl
  | @link n request s s' t a r chain result log nested answered member ceded inner ih =>
    obtain ⟨-, -, hnested⟩ := of_link answered member ceded inner
    have silent : planRequests (complaint result) = [] := by
      cases result <;> rfl
    rw [answered.planRequests_log, hnested, planRequests_append, ih, silent, List.append_nil,
      List.map_cons]

end Chain

/-- Every request has its chain, if there are levels enough for all runs that are not refused. -/
theorem chain_total (e : Engine σ) (n : ℕ) (request : String) (s : Session σ)
    (enough : e.settings.levels ≤ s.depth + n) :
    ∃ chain result s' log, Chain e n request s chain result s' log := by
  induction n generalizing request s with
  | zero =>
    obtain ⟨a, s', log, answered⟩ := answered_total e (further e 0) request s
    exact ⟨_, _, _, _, .last answered (answered.stays_of_le enough)⟩
  | succ n ih =>
    obtain ⟨a, s', log, answered⟩ := answered_total e (further e (n + 1)) request s
    by_cases stays : ∀ r ∈ a.records, r.fate ≠ .handedOver
    · exact ⟨_, _, _, _, .last answered stays⟩
    · obtain ⟨r, member, ceded⟩ : ∃ r ∈ a.records, r.fate = .handedOver := by simpa using stays
      obtain ⟨t, -, -, hdepth, -⟩ := answered.of_over (further_refuses e _) member ceded
      have enough' : e.settings.levels ≤ (deeper r.ready).depth + n := by
        rw [deeper_depth, hdepth]
        omega
      obtain ⟨chain, result, t', nested, inner⟩ := ih r.step.content (deeper r.ready) enough'
      exact ⟨_, _, _, _, .link answered member ceded inner⟩

/-- One more level of recursion changes no chain. -/
theorem Chain.succ (h : Chain e n request s chain result s' log) :
    Chain e (n + 1) request s chain result s' log := by
  induction h with
  | last answered stays =>
    refine .last (answered.congr fun r member kind => ?_) stays
    obtain ⟨f, called, -⟩ := answered.refusal (further_refuses e _) member kind (stays r member)
    have deep := le_of_further_error e called
    rw [further_of_le e _ _ deep, further_of_le e _ _ deep]
  | @link n request s s' t a r chain result log nested answered member ceded inner ih =>
    refine .link (answered.congr fun r' member' kind => ?_) member ceded ih
    by_cases ceded' : r'.fate = .handedOver
    · obtain rfl := answered.over_unique member ceded member' ceded'
      obtain ⟨_, -, -, hdepth, -⟩ := answered.of_over (further_refuses e _) member ceded
      have hlt : r.ready.depth < e.settings.levels := hdepth ▸ lt_of_link answered member ceded
      rw [further_of_lt e _ _ hlt, further_of_lt e _ _ hlt, nested_apply, nested_apply,
        answer_of_chain ih, answer_of_chain inner]
    · obtain ⟨f, called, -⟩ := answered.refusal (further_refuses e _) member' kind ceded'
      have deep := le_of_further_error e called
      rw [further_of_le e _ _ deep, further_of_le e _ _ deep]

/-- Levels of recursion beyond those that are needed change nothing. -/
theorem answer_add (e : Engine σ) (n k : ℕ) (request : String) (s : Session σ)
    (enough : e.settings.levels ≤ s.depth + n) :
    answer e (n + k) request s = answer e n request s := by
  obtain ⟨chain, result, s', log, h⟩ := chain_total e n request s enough
  have more : Chain e (n + k) request s chain result s' log := by
    induction k with
    | zero => exact h
    | succ k ih => exact ih.succ
  rw [answer_of_chain more, answer_of_chain h]

/-- Answering a request, where the plan may hand over to further requests that are answered in the same
way. -/
theorem run_eq (e : Engine σ) (request : String) (s : Session σ) :
    run e request s = answerWith e (recurse e (run e)) request s :=
  (answer_add e e.settings.levels 1 request s (Nat.le_add_left _ _)).symm

/-- Every run in a chain has its account, and starts with the conversation of the first one. -/
theorem Chain.answered_of_mem (h : Chain e n request s chain result s' log) (member : a ∈ chain) :
    a.session.history = s.history ∧
      ∃ m t log', Answered e a.request a.session (further e m) a t log' := by
  induction h with
  | last answered stays =>
    obtain rfl := List.mem_singleton.mp member
    obtain rfl := answered.request_eq
    obtain rfl := answered.session_eq
    exact ⟨rfl, _, _, _, answered⟩
  | link answered member' ceded inner ih =>
    obtain rfl | member := List.mem_cons.mp member
    · obtain rfl := answered.request_eq
      obtain rfl := answered.session_eq
      exact ⟨rfl, _, _, _, answered⟩
    · obtain ⟨hhistory, rest⟩ := ih member
      obtain ⟨_, -, hready, -⟩ := answered.of_over (further_refuses e _) member' ceded
      exact ⟨hhistory.trans hready, rest⟩

end Stepwise.Assistant

/-!
What a user may order from a service, one order after the other: to answer a request, or to forget the
conversation. A request that fails ends only itself.
-/

namespace Stepwise.Assistant

/-- What a user may order. -/
inductive Order
  | request (text : String)
  | forget
  deriving DecidableEq, Repr

variable {σ : Type} (e : Engine σ)

/-- Carries out an order. -/
def Order.act : Order → Act Event (Session σ) Unit
  | .request text => do
    let _ ← (run e text).attempt
    pure ()
  | .forget => Assistant.forget

/-- The session after orders. -/
def sessionAfter (orders : List Order) (s : Session σ) : Session σ :=
  orders.foldl (fun s order => (order.act e s).world) s

@[simp] theorem act_request (text : String) (s : Session σ) :
    ((Order.request text).act e s).world = (run e text s).world := rfl

@[simp] theorem act_forget (s : Session σ) :
    (Order.forget.act e s).world = { s with history := [] } := rfl

@[simp] theorem sessionAfter_nil (s : Session σ) : sessionAfter e [] s = s := rfl

@[simp] theorem sessionAfter_cons (order : Order) (orders : List Order) (s : Session σ) :
    sessionAfter e (order :: orders) s = sessionAfter e orders (order.act e s).world := rfl

/-- What every order preserves is preserved by all of them. -/
theorem sessionAfter_preserves {P : Session σ → Prop}
    (kept : ∀ order s, P s → P ((order : Order).act e s).world) (orders : List Order) {s : Session σ}
    (h : P s) : P (sessionAfter e orders s) := by
  induction orders generalizing s with
  | nil => exact h
  | cons order orders ih =>
    rw [sessionAfter_cons]
    exact ih (kept order s h)

/-- A request that is made in any session has its chain, which is all that becomes of it. -/
theorem run_chain (request : String) (s : Session σ) :
    ∃ chain result s' log, Chain e e.settings.levels request s chain result s' log ∧
      run e request s = ⟨result, s', log⟩ := by
  obtain ⟨chain, result, s', log, h⟩ :=
    chain_total e e.settings.levels request s (Nat.le_add_left _ _)
  exact ⟨chain, result, s', log, h, answer_of_chain h⟩

/-- Orders leave no run that encloses what follows. -/
theorem sessionAfter_depth (orders : List Order) (s : Session σ) :
    (sessionAfter e orders s).depth = s.depth := by
  refine sessionAfter_preserves e (fun order t (ht : t.depth = s.depth) => ?_) orders rfl
  cases order with
  | request text =>
    obtain ⟨chain, result, t', log, h, hrun⟩ := run_chain e text t
    rw [act_request, hrun]
    exact h.depth_eq.trans ht
  | forget => exact ht

end Stepwise.Assistant
