import Mathlib.Data.List.Chain
import Stepwise.Proofs.RequestChain

/-!
Nesting is bounded. Each run of a chain takes over from the last step of the run before it, so that a run
starts at most one other; a run at the limit refuses to start any, reports that, and goes on with its
plan. The bound on the plans that are asked for, and the depth that is left, follow from the chain.
-/

namespace Stepwise

/-- A limit that is a number allows for as many levels. -/
theorem Settings.levels_of_int {settings : Settings} {limit : ℕ}
    (limited : settings.maxDepth = .int limit) : settings.levels = limit := by
  rw [levels, limited]
  rfl

theorem Settings.refusal_of_int {settings : Settings} {limit : ℕ}
    (limited : settings.maxDepth = .int limit) :
    settings.refusal = .depthExceeded (.int limit) := by
  rw [refusal, limited]

namespace Assistant

open Dispatch

variable {σ : Type} {e : Engine σ} {n : ℕ} {request : String} {s s' : Session σ} {a b : Account σ}
variable {chain : List (Account σ)} {result : Except Fault Ending} {log : List Event}

namespace Account

/-- A run whose last step is the only one that handed over, with the run that took over. -/
def Starts (a b : Account σ) : Prop :=
  ∃ init r, a.records = init ++ [r] ∧ r.fate = .handedOver ∧ (∀ r' ∈ init, r'.fate ≠ .handedOver) ∧
    b.request = r.step.content ∧ b.session = deeper r.ready

/-- A run none of whose steps handed over. -/
def Stays (a : Account σ) : Prop := ∀ r ∈ a.records, r.fate ≠ .handedOver

end Account

namespace Answered

variable {callback : Callback σ}

/-- A step that hands over is the last one of its run. -/
theorem records_of_over (h : Answered e request s callback a s' log) {r : Record σ}
    (member : r ∈ a.records) (ceded : r.fate = .handedOver) :
    ∃ init, a.records = init ++ [r] ∧ ∀ r' ∈ init, r'.fate ≠ .handedOver := by
  cases h with
  | failed asked found => exact absurd member List.not_mem_nil
  | answered asked found walk =>
    obtain ⟨-, -, stays⟩ | ⟨-, init, last, rfl, ceded', stays⟩ := walk.ending_cases
    · exact absurd ceded (stays r member)
    · obtain rfl := walk.over_unique member ceded (List.mem_append_right _ List.mem_cons_self) ceded'
      exact ⟨init, rfl, stays⟩

/-- A run that hands nothing over begins all steps of its plan. -/
theorem planned_of_stays (h : Answered e request s callback a s' log) (stays : a.Stays)
    {reply : String} {steps : List Step} (found : a.inquiry.found = .ok (reply, steps)) :
    a.records.map Record.planned = steps := by
  cases h with
  | failed asked found' =>
    rw [found'] at found
    cases found
  | answered asked found' walk =>
    obtain ⟨⟩ := found'.symm.trans found
    obtain ⟨-, all, -⟩ | ⟨-, init, last, rfl, ceded, -⟩ := walk.ending_cases
    · rw [walk.planned_eq, all, List.take_length]
    · exact absurd ceded (stays last (List.mem_append_right _ List.mem_cons_self))

end Answered

namespace Chain

/-- The first run of a chain is that of the request itself. -/
theorem head_eq (h : Chain e n request s chain result s' log) :
    ∃ a rest, chain = a :: rest ∧ a.request = request ∧ a.session = s ∧ a.result = result := by
  cases h with
  | last answered stays => exact ⟨_, _, rfl, answered.request_eq, answered.session_eq, rfl⟩
  | link answered member ceded inner => exact ⟨_, _, rfl, answered.request_eq, answered.session_eq, rfl⟩

/-- Each run but the last one starts the next one. -/
theorem isChain_starts (h : Chain e n request s chain result s' log) :
    chain.IsChain Account.Starts := by
  induction h with
  | last answered stays => exact .singleton _
  | @link n request s s' t a r chain result log nested answered member ceded inner ih =>
    obtain ⟨b, rest, rfl, hrequest, hsession, -⟩ := inner.head_eq
    obtain ⟨init, records, stays⟩ := answered.records_of_over member ceded
    exact .cons_cons ⟨init, r, records, ceded, stays, hrequest, hsession⟩ ih

/-- The last run of a chain starts none. -/
theorem stays_of_getLast (h : Chain e n request s chain result s' log)
    (last : chain.getLast? = some a) : a.Stays := by
  induction h with
  | last answered stays =>
    obtain rfl := Option.some.inj last
    exact stays
  | link answered member ceded inner ih =>
    obtain ⟨b, rest, rfl, -⟩ := inner.head_eq
    exact ih (by rwa [List.getLast?_cons_cons] at last)

/-- A run that is nested as deeply as runs may be refuses each step that would start another, reports
it, and begins all steps of its plan. -/
theorem refused_of_le (h : Chain e n request s chain result s' log) (member : a ∈ chain)
    (deep : e.settings.levels ≤ a.session.depth) :
    a.Stays ∧
      (∀ reply steps, a.inquiry.found = .ok (reply, steps) → a.records.map Record.planned = steps) ∧
      ∀ r ∈ a.records, r.step.kind = .recurse → r.fate = .failed e.settings.refusal ∧
        r.nested = [] ∧ r.after = [.stepFailed r.index e.settings.refusal] := by
  obtain ⟨-, m, t, log', answered⟩ := h.answered_of_mem member
  have stays : a.Stays := answered.stays_of_le deep
  refine ⟨stays, fun reply steps found => answered.planned_of_stays stays found, fun r hr kind => ?_⟩
  obtain ⟨f, called, hfate, hnested, hafter⟩ :=
    answered.refusal (further_refuses e m) hr kind (stays r hr)
  have same : f = e.settings.refusal := by
    rw [further_of_le e m _ (le_of_further_error e called)] at called
    cases called
    rfl
  rw [← same]
  exact ⟨hfate, hnested, hafter⟩

end Chain

variable (e) in
/-- The law of nesting for a request that is answered where no run encloses it and `limit` levels are
allowed below it, with the runs that it leads to. -/
structure Bounded (limit : ℕ) (request : String) (s : Session σ) (chain : List (Account σ))
    (result : Except Fault Ending) (s' : Session σ) (log : List Event) : Prop where
  /-- The runs are those of the chain, and answering the request comes to its end with them. -/
  linked : Chain e limit request s chain result s' log
  outcome : run e request s = ⟨result, s', log⟩
  /-- The recursion ends by itself: allowing it to go deeper changes nothing, and further requests are
  answered in the same way without any bound. -/
  stable : ∀ n, limit ≤ n → answer e n request s = ⟨result, s', log⟩
  equation : run e request s = answerWith e (recurse e (run e)) request s
  /-- Each run asks the provider for one plan. -/
  requests : planRequests log = chain.map fun a => a.inquiry.sent
  requests_le : (planRequests log).length ≤ limit + 1
  /-- Each run but the last one starts one other, one level deeper. -/
  depths : chain.map (fun a => a.session.depth) = List.range chain.length
  starts : chain.IsChain Account.Starts
  stays : ∀ a, chain.getLast? = some a → a.Stays
  /-- At the limit a step that would start another run fails before anything is asked, that is
  reported, and the plan is carried on to its last step. -/
  refused : ∀ a ∈ chain, a.session.depth = limit →
    (∀ reply steps, a.inquiry.found = .ok (reply, steps) → a.records.map Record.planned = steps) ∧
    ∀ r ∈ a.records, r.step.kind = .recurse → r.fate = .failed (.depthExceeded (.int limit)) ∧
      r.nested = [] ∧ r.after = [.stepFailed r.index (.depthExceeded (.int limit))]
  /-- No run encloses what follows, whatever became of the request and of the runs below it. -/
  depth_eq : s'.depth = 0

/-- Every request that no run encloses leads to a bounded chain of runs. -/
theorem run_bounded (e : Engine σ) (limit : ℕ) (limited : e.settings.maxDepth = .int limit)
    (request : String) (s : Session σ) (top : s.depth = 0) :
    ∃ chain result s' log, Bounded e limit request s chain result s' log := by
  have levels := Settings.levels_of_int limited
  have enough : e.settings.levels ≤ s.depth + limit := by omega
  obtain ⟨chain, result, s', log, h⟩ := chain_total e limit request s enough
  have length_le : chain.length ≤ limit + 1 := by
    have := h.length_le
    omega
  refine ⟨chain, result, s', log, {
    linked := h
    outcome := ?_
    stable := fun n more => ?_
    equation := run_eq e request s
    requests := h.planRequests_eq
    requests_le := ?_
    depths := ?_
    starts := h.isChain_starts
    stays := fun a last => h.stays_of_getLast last
    refused := fun a member deep => ?_
    depth_eq := h.depth_eq.trans top }⟩
  · rw [run, levels]
    exact answer_of_chain h
  · obtain ⟨k, rfl⟩ := Nat.exists_eq_add_of_le more
    rw [answer_add e limit k request s enough]
    exact answer_of_chain h
  · rwa [h.planRequests_eq, List.length_map]
  · rw [h.depths_eq, top, List.range_eq_range']
  · obtain ⟨-, planned, failed⟩ := h.refused_of_le member (by omega)
    rw [Settings.refusal_of_int limited] at failed
    exact ⟨planned, failed⟩

/-- A plugin that makes every plan ask for the same further request, and for a text after it. -/
def insistent : Plugin Unit where
  name := "insistent"
  hook
    | .afterParse _ =>
      some (pure (.list [.object [("type", .int 5), ("content", .text "again")], .text "done"]))
    | _ => none

theorem run_bounded_insistent :
    (Engine.plain (.int 2) "" [insistent]).settings.maxDepth = .int 2 ∧ (Session.fresh ()).depth = 0 ∧
      (∃ chain result s' log, Bounded (.plain (.int 2) "" [insistent]) 2 "go" (.fresh ())
        chain result s' log) ∧
      (planRequests (run (.plain (.int 2) "" [insistent]) "go" (.fresh ())).log).length = 3 :=
  ⟨rfl, rfl, run_bounded _ 2 rfl "go" _ rfl, by decide +kernel⟩

end Assistant

end Stepwise
