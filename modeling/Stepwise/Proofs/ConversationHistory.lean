import Mathlib.Data.List.Basic
import Stepwise.Proofs.BoundedNesting
import Stepwise.Proofs.OutputIsolation

/-!
The history of a conversation. It is made of exchanges, since a run adds a request together with its
reply, and only when its plan has been carried out. The runs of a chain add theirs from the innermost one
outwards, and all of them ask for their plans with the history that the first one started with.
-/

namespace Stepwise

namespace Assistant

open Dispatch

variable {σ : Type} {e : Engine σ} {n : ℕ} {request : String} {s s' : Session σ} {a : Account σ}
variable {chain : List (Account σ)} {result : Except Fault Ending} {log : List Event}

/-- Exchanges as the history keeps them. -/
def turnsOf (pairs : List (String × String)) : List Message :=
  pairs.flatMap fun p => exchange p.1 p.2

@[simp] theorem turnsOf_nil : turnsOf [] = [] := rfl

@[simp] theorem turnsOf_append (pairs pairs' : List (String × String)) :
    turnsOf (pairs ++ pairs') = turnsOf pairs ++ turnsOf pairs' :=
  List.flatMap_append

/-- A history that consists of exchanges. -/
def Paired (history : List Message) : Prop := ∃ pairs, history = turnsOf pairs

theorem paired_nil : Paired [] := ⟨[], rfl⟩

theorem Paired.append {history : List Message} (h : Paired history) (pairs : List (String × String)) :
    Paired (history ++ turnsOf pairs) := by
  obtain ⟨pairs', rfl⟩ := h
  exact ⟨pairs' ++ pairs, (turnsOf_append pairs' pairs).symm⟩

namespace Account

/-- A run that came to its end. -/
def Returned (a : Account σ) : Prop := ∃ ending, a.result = .ok ending

/-- The request of a run with its reply as the plugins leave it, if a plan was found in it. -/
def exchange? (a : Account σ) : Option (String × String) :=
  match a.inquiry.found with
  | .ok (reply, _) => some (a.request, reply)
  | .error _ => none

theorem turns_eq (a : Account σ) : a.turns = turnsOf a.exchange?.toList := by
  unfold turns exchange?
  cases a.inquiry.found <;> simp [turnsOf]

end Account

namespace Answered

variable {callback : Callback σ}

/-- A run comes to its end if a plan was found, and otherwise fails before it begins any step. -/
theorem returned_cases (h : Answered e request s callback a s' log) :
    (a.Returned ∧ ∃ p, a.exchange? = some p) ∨
    (¬ a.Returned ∧ a.exchange? = none ∧ a.records = []) := by
  cases h with
  | failed asked found =>
    refine .inr ⟨?_, ?_, rfl⟩
    · rintro ⟨ending, returned⟩
      cases returned
    · simp [Account.exchange?, found]
  | @answered q s₁ s'' reply steps records closing ending asked found walk =>
    refine .inl ⟨⟨ending, rfl⟩, (request, reply), ?_⟩
    simp [Account.exchange?, found]

end Answered

/-- The runs of a chain that come to their end are the first ones, all or all but the last, and what
they add to the history are their exchanges, those of the inner runs first. -/
theorem Chain.history_eq (h : Chain e n request s chain result s' log) :
    ∃ pairs : List (String × String), chain.length ≤ pairs.length + 1 ∧
      (∀ i (hi : i < chain.length), chain[i].Returned ↔ i < pairs.length) ∧
      (chain.take pairs.length).map Account.exchange? = pairs.map some ∧
      s'.history = s.history ++ turnsOf pairs.reverse := by
  induction h with
  | @last n request s s' a log answered stays =>
    obtain ⟨hhistory, -⟩ := answered.of_stays (further_refuses e n) stays
    rw [a.turns_eq] at hhistory
    obtain ⟨returned, p, hp⟩ | ⟨raised, hp, -⟩ := answered.returned_cases
    · refine ⟨[p], by simp, fun i hi => ?_, by simp [hp], by simpa [hp] using hhistory⟩
      obtain rfl : i = 0 := by simpa using hi
      simpa using returned
    · refine ⟨[], by simp, fun i hi => ?_, rfl, by simpa [hp] using hhistory⟩
      obtain rfl : i = 0 := by simpa using hi
      simpa using raised
  | @link n request s s' t a r chain result log nested answered member ceded inner ih =>
    obtain ⟨hhistory, -⟩ := of_link answered member ceded inner
    obtain ⟨pairs, hlength, hreturned, hpairs, hinner⟩ := ih
    obtain ⟨returned, p, hp⟩ | ⟨-, -, none_begun⟩ := answered.returned_cases
    · refine ⟨p :: pairs, by simpa using hlength, fun i hi => ?_, by simp [hp, hpairs], ?_⟩
      · cases i with
        | zero => simpa using returned
        | succ i => simpa using hreturned i (Nat.lt_of_succ_lt_succ hi)
      · have hready := answered.ready_history (further_refuses e _) r member
        rw [hhistory, hinner, deeper_history, hready, a.turns_eq, hp]
        simp
    · rw [none_begun] at member
      exact absurd member List.not_mem_nil

/-- The first plugin hears what a run is about to ask, before any plugin has changed it; the provider is
asked with what they make of it. -/
theorem Asked.heard_asked {q : Inquiry} (h : Asked e request s q s') :
    (∃ rest, heard 0 q.log = .beforeRequest q.asked :: rest) ∧
      ∃ w hooks, Hooks.beforeRequest e.participants q.asked s.world = ⟨.ok q.sent, w, hooks⟩ := by
  obtain ⟨w, hooks, rest, prepared, hlog, -⟩ := h.log_eq
  obtain ⟨p, ps, hparticipants⟩ := e.participants_eq_cons
  obtain ⟨later, hfirst⟩ := Hooks.heard_first (hparticipants ▸ prepared)
  refine ⟨⟨later ++ heard 0 rest, ?_⟩, w, hooks, prepared⟩
  rw [hlog, heard_append, heard_planning, hfirst, List.cons_append]

/-- The reply in which a plan was found is what the plugins make of the answer of the provider. -/
theorem Asked.replied {q : Inquiry} (h : Asked e request s q s') {reply : String} {steps : List Step}
    (found : q.found = .ok (reply, steps)) :
    ∃ raw w w' w'' deeds hooks, e.complete .plan q.sent w = ⟨.ok raw, w', deeds⟩ ∧
      Hooks.afterReply e.participants raw w' = ⟨.ok reply, w'', hooks⟩ := by
  cases h with
  | failed prepared completed => cases found
  | unreadable prepared completed replied read => cases found
  | found prepared completed replied read parsed =>
    cases found
    exact ⟨_, _, _, _, _, _, completed, replied⟩

variable (e) in
/-- What a request does to the history, with the runs that it leads to. -/
structure Remembered (s : Session σ) (chain : List (Account σ)) (result : Except Fault Ending)
    (s' : Session σ) (log : List Event) : Prop where
  /-- A request that fails adds nothing. -/
  failed : ∀ f, result = .error f → s'.history = s.history
  /-- Otherwise each run that came to its end adds its exchange, the innermost one first; only the
  innermost run of all may have failed. -/
  added : ∃ pairs : List (String × String), chain.length ≤ pairs.length + 1 ∧
    (∀ i (hi : i < chain.length), chain[i].Returned ↔ i < pairs.length) ∧
    (chain.take pairs.length).map Account.exchange? = pairs.map some ∧
    s'.history = s.history ++ turnsOf pairs.reverse
  /-- The reply is the answer of the provider as the plugins leave it. -/
  replied : ∀ a ∈ chain, ∀ reply steps, a.inquiry.found = .ok (reply, steps) →
    ∃ raw w w' w'' deeds hooks, e.complete .plan a.inquiry.sent w = ⟨.ok raw, w', deeds⟩ ∧
      Hooks.afterReply e.participants raw w' = ⟨.ok reply, w'', hooks⟩
  /-- Each run asks with the history that the first one started with, as the first plugin hears; the
  plugins may change that on its way to the provider. -/
  asked : ∀ a ∈ chain,
    a.inquiry.asked =
      ⟨.system, Prompt.system⟩ :: s.history ++ [⟨.user, promptFor e a.request⟩] ∧
    (heard 0 a.own).head? = some (.beforeRequest a.inquiry.asked) ∧
    ∃ w hooks, Hooks.beforeRequest e.participants a.inquiry.asked a.session.world =
      ⟨.ok a.inquiry.sent, w, hooks⟩
  requests : planRequests log = chain.map fun a => a.inquiry.sent
  /-- While the runs are under way the history stays as it was. -/
  steady : ∀ a ∈ chain, a.session.history = s.history ∧ ∀ r ∈ a.records, r.ready.history = s.history

theorem Chain.remembered (h : Chain e n request s chain result s' log) :
    Remembered e s chain result s' log := by
  refine ⟨fun f raised => ?_, h.history_eq, fun a member reply steps found => ?_, fun a member => ?_,
    h.planRequests_eq, fun a member => ?_⟩
  · obtain ⟨pairs, -, hreturned, -, hhistory⟩ := h.history_eq
    obtain ⟨a, rest, rfl, -, -, rfl⟩ := h.head_eq
    have none_returned : ¬ 0 < pairs.length := by
      intro more
      obtain ⟨ending, returned⟩ := (hreturned 0 (Nat.zero_lt_succ _)).mpr more
      have returned : a.result = .ok ending := returned
      rw [raised] at returned
      cases returned
    rw [hhistory, List.length_eq_zero_iff.mp (Nat.eq_zero_of_not_pos none_returned)]
    simp
  · obtain ⟨-, m, t, log', answered⟩ := h.answered_of_mem member
    obtain ⟨t, asked⟩ := answered.asked
    exact asked.replied found
  · obtain ⟨hhistory, m, t, log', answered⟩ := h.answered_of_mem member
    obtain ⟨t, asked⟩ := answered.asked
    obtain ⟨⟨rest, hrest⟩, prepared⟩ := asked.heard_asked
    refine ⟨?_, ?_, prepared⟩
    · rw [answered.asked_eq, hhistory]
      rfl
    · rw [Account.own, heard_append, hrest]
      rfl
  · obtain ⟨hhistory, m, t, log', answered⟩ := h.answered_of_mem member
    refine ⟨hhistory, fun r hr => ?_⟩
    rw [answered.ready_history (further_refuses e m) r hr, hhistory]

/-- Every order leaves a history of exchanges. -/
theorem paired_sessionAfter (e : Engine σ) (orders : List Order) {s : Session σ}
    (h : Paired s.history) : Paired (sessionAfter e orders s).history := by
  refine sessionAfter_preserves e (P := fun t => Paired t.history) (fun order t ht => ?_) orders h
  cases order with
  | request text =>
    obtain ⟨chain, result, t', log, hchain, hrun⟩ := run_chain e text t
    obtain ⟨pairs, -, -, -, hhistory⟩ := hchain.history_eq
    rw [act_request, hrun, hhistory]
    exact ht.append pairs.reverse
  | forget => exact paired_nil

/-- Whatever was ordered before, the history consists of exchanges, and a request does to it what its
chain of runs says. -/
theorem history_law (e : Engine σ) (orders : List Order) (world : σ) (request : String) :
    Paired (sessionAfter e orders (.fresh world)).history ∧
    ∃ chain result s' log,
      Chain e e.settings.levels request (sessionAfter e orders (.fresh world)) chain result s' log ∧
      run e request (sessionAfter e orders (.fresh world)) = ⟨result, s', log⟩ ∧
      chain.map (fun a => a.session.depth) = List.range chain.length ∧
      Remembered e (sessionAfter e orders (.fresh world)) chain result s' log ∧
      Paired s'.history := by
  have paired := paired_sessionAfter e orders (s := .fresh world) paired_nil
  obtain ⟨chain, result, s', log, h, hrun⟩ :=
    run_chain e request (sessionAfter e orders (.fresh world))
  refine ⟨paired, chain, result, s', log, h, hrun, ?_, h.remembered, ?_⟩
  · rw [h.depths_eq, sessionAfter_depth, List.range_eq_range']
    rfl
  · obtain ⟨pairs, -, -, -, hhistory⟩ := h.history_eq
    rw [hhistory]
    exact paired.append pairs.reverse

end Assistant

end Stepwise
