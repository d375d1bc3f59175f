import Mathlib.Data.List.Basic
import Stepwise.Proofs.ConversationHistory

/-!
The protocol of plugin calls. What a plugin is called for in the course of a request, the values aside, is
a word of a grammar whose productions say why they apply: a run that gets no plan breaks off after the
call at which it failed; one that has a plan goes through its steps in order, and ends with a farewell or
with the whole word of the run that took over. All plugins get the same word.
-/

namespace Stepwise

/-- A call of a plugin without the values that it passes: the point, and of a step the index. -/
inductive HookMark
  | start
  | beforeRequest
  | afterReply
  | afterParse
  | beforeStep (index : ℕ)
  | afterStep (index : ℕ)
  | afterRun
  deriving DecidableEq, Repr

/-- The mark of a call. -/
def HookCall.mark : HookCall → HookMark
  | start => .start
  | beforeRequest _ => .beforeRequest
  | afterReply _ => .afterReply
  | afterParse _ => .afterParse
  | beforeStep _ index _ => .beforeStep index
  | afterStep _ index _ _ => .afterStep index
  | afterRun .. => .afterRun

/-- The marks of the calls that the plugin at a position got, in order. -/
def marks (position : ℕ) (log : List Event) : List HookMark := (heard position log).map HookCall.mark

@[simp] theorem marks_append (position : ℕ) (log log' : List Event) :
    marks position (log ++ log') = marks position log ++ marks position log' := by
  rw [marks, heard_append, List.map_append]
  rfl

/-- Passing a value through plugins leaves the mark of the point with each of them, once. -/
theorem Hooks.marks_of_transform {σ α : Type} {accept : Value → Except Fault α} {call : α → HookCall}
    {ps : List (Plugin σ)} {a : α} {w w' : σ} {r : Except Fault α} {log : List Event}
    (h : transform accept call 0 ps a w = ⟨r, w', log⟩) {m : HookMark} (same : ∀ b, (call b).mark = m)
    {position : ℕ} (installed : position < ps.length) : marks position log = [m] := by
  obtain ⟨_, _, _, h', -, hheard⟩ := transform_spec accept call ps 0 a w
  obtain ⟨-, -, rfl⟩ := Outcome.mk.inj (h.symm.trans h')
  obtain ⟨b, hb⟩ := hheard position
  have among : Among ps 0 position := ⟨Nat.zero_le position, by omega⟩
  rw [marks, hb, if_pos among, List.map_singleton, same b]

namespace Dispatch

variable {σ : Type} {e : Engine σ} {callback : Option (Callback σ)} {plan : List Step}

/-- The marks of a step that was begun: it is announced and, if it completes, told of again. -/
def Record.marks (r : Record σ) : List HookMark :=
  .beforeStep r.index :: (r.output?.map fun _ => .afterStep r.index).toList

theorem Record.calls_marks (plan : List Step) (r : Record σ) (c : Step) :
    (r.calls plan c).filterMap (some ∘ HookCall.mark) = r.marks := by
  unfold calls notice? Record.marks
  cases r.output? <;> rfl

/-- The blocks of the steps that were begun from an index on. A step that completed has two marks; one
that failed or handed over has only the first. -/
inductive Blocks : ℕ → List (Record σ) → List HookMark → Prop
  | nil {index : ℕ} : Blocks index [] []
  | begun {index : ℕ} {r : Record σ} {records : List (Record σ)} {word : List HookMark}
      (place : r.index = index) (incomplete : r.output? = none)
      (rest : Blocks (index + 1) records word) :
      Blocks index (r :: records) (.beforeStep index :: word)
  | completed {index : ℕ} {r : Record σ} {v : Value} {records : List (Record σ)} {word : List HookMark}
      (place : r.index = index) (output : r.output? = some v)
      (rest : Blocks (index + 1) records word) :
      Blocks index (r :: records) (.beforeStep index :: .afterStep index :: word)

/-- Records with consecutive indices have their blocks. -/
theorem blocks_of_indices {index : ℕ} {records : List (Record σ)}
    (indices : records.map Record.index = List.range' index records.length) :
    Blocks index records (records.flatMap Record.marks) := by
  induction records generalizing index with
  | nil => exact .nil
  | cons r records ih =>
    rw [List.map_cons, List.length_cons, List.range'_succ] at indices
    obtain ⟨place, later⟩ := List.cons.inj indices
    have rest := ih later
    cases output : r.output? with
    | none =>
      have only : r.marks = [.beforeStep index] := by simp [Record.marks, output, place]
      rw [List.flatMap_cons, only]
      exact .begun place output rest
    | some v =>
      have both : r.marks = [.beforeStep index, .afterStep index] := by
        simp [Record.marks, output, place]
      rw [List.flatMap_cons, both]
      exact .completed place output rest

/-- The marks of the steps speak of nothing but steps. -/
theorem notMem_of_blocks {index : ℕ} {records : List (Record σ)} {word : List HookMark}
    (h : Blocks index records word) : .beforeRequest ∉ word ∧ .afterRun ∉ word := by
  induction h with
  | nil => simp
  | begun place incomplete rest ih => simpa using ih
  | completed place output rest ih => simpa using ih

/-- Every plugin gets the marks of the steps and, if the plan was carried out to its end, the farewell. -/
theorem marks_ownLog {s s' : Session σ} {records : List (Record σ)} {closing : List Event}
    {ending : Ending} (h : Walk e callback plan 0 plan (cleared s) records closing ending s')
    {position : ℕ} (installed : position < e.participants.length) :
    marks position (ownLog plan records closing) =
      records.flatMap Record.marks ++ if ending.phase = .done then [.afterRun] else [] := by
  have told := filterMap_heard_ownLog h installed (some ∘ HookCall.mark) Record.marks
    (Record.calls_marks plan)
  rw [List.filterMap_eq_map] at told
  rw [marks, told]
  split <;> rfl

end Dispatch

namespace Assistant

open Dispatch

variable {σ : Type}

section

variable (e : Engine σ)

namespace Account

/-- The provider fails when it is asked with what the plugins make of the messages. -/
def Unanswered (a : Account σ) : Prop :=
  ∃ sent w hooks f w' deeds,
    Hooks.beforeRequest e.participants a.inquiry.asked a.session.world = ⟨.ok sent, w, hooks⟩ ∧
    e.complete .plan sent w = ⟨.error f, w', deeds⟩ ∧ a.result = .error f

/-- The provider replies, but what the plugins make of its reply cannot be read. -/
def Unreadable (a : Account σ) : Prop :=
  ∃ sent w hooks raw w' deeds reply w'' hooks' f,
    Hooks.beforeRequest e.participants a.inquiry.asked a.session.world = ⟨.ok sent, w, hooks⟩ ∧
    e.complete .plan sent w = ⟨.ok raw, w', deeds⟩ ∧
    Hooks.afterReply e.participants raw w' = ⟨.ok reply, w'', hooks'⟩ ∧
    Plan.ofReply reply = .error f ∧ a.result = .error f

theorem not_returned_of_error {a : Account σ} {f : Fault} (failed : a.result = .error f) :
    ¬ a.Returned := by
  rintro ⟨ending, returned⟩
  rw [failed] at returned
  cases returned

end Account

/-- The words of plugin calls for a chain of runs, from the first one on. A run that was handed over to
stands with its whole word at the end of the run before it, which has no farewell then. -/
inductive Protocol : List (Account σ) → List HookMark → Prop
  | unanswered {a : Account σ} (raised : a.Unanswered e) : Protocol [a] [.beforeRequest]
  | unreadable {a : Account σ} (raised : a.Unreadable e) : Protocol [a] [.beforeRequest, .afterReply]
  | finished {a : Account σ} {steps : List HookMark} (returned : a.Returned) (stays : a.Stays)
      (blocks : Blocks 0 a.records steps) :
      Protocol [a] ([.beforeRequest, .afterReply, .afterParse] ++ steps ++ [.afterRun])
  | handedOver {a b : Account σ} {chain : List (Account σ)} {steps word : List HookMark}
      (returned : a.Returned) (starts : a.Starts b) (blocks : Blocks 0 a.records steps)
      (nested : Protocol (b :: chain) word) :
      Protocol (a :: b :: chain) ([.beforeRequest, .afterReply, .afterParse] ++ steps ++ word)

end

variable {e : Engine σ} {n : ℕ} {request : String} {s s' : Session σ} {a : Account σ}
variable {chain : List (Account σ)} {result : Except Fault Ending} {log : List Event}

namespace Protocol

variable {word : List HookMark}

/-- Each run of the chain asks for a plan once. -/
theorem count_beforeRequest (h : Protocol e chain word) : word.count .beforeRequest = chain.length := by
  induction h with
  | unanswered raised => rfl
  | unreadable raised => rfl
  | finished returned stays blocks =>
    have silent := List.count_eq_zero.mpr (notMem_of_blocks blocks).1
    simp [silent]
  | handedOver returned starts blocks nested ih =>
    have silent := List.count_eq_zero.mpr (notMem_of_blocks blocks).1
    simp [silent, ih, Nat.add_comm]

/-- The farewell comes last, and only from the innermost run. -/
theorem farewell (h : Protocol e chain word) (last : chain.getLast? = some a) :
    (a.Returned → ∃ init, word = init ++ [.afterRun] ∧ .afterRun ∉ init) ∧
      (¬ a.Returned → .afterRun ∉ word) := by
  induction h with
  | @unanswered a' raised =>
    obtain ⟨_, _, _, f, _, _, -, -, failed⟩ := raised
    have same : a' = a := Option.some.inj last
    have raised := Account.not_returned_of_error failed
    rw [same] at raised
    exact ⟨fun returned => absurd returned raised, fun _ => by simp⟩
  | @unreadable a' raised =>
    obtain ⟨_, _, _, _, _, _, _, _, _, f, -, -, -, -, failed⟩ := raised
    have same : a' = a := Option.some.inj last
    have raised := Account.not_returned_of_error failed
    rw [same] at raised
    exact ⟨fun returned => absurd returned raised, fun _ => by simp⟩
  | @finished a' steps returned stays blocks =>
    have same : a' = a := Option.some.inj last
    rw [same] at returned
    have silent := (notMem_of_blocks blocks).2
    exact ⟨fun _ => ⟨_, rfl, by simp [silent]⟩, fun raised => absurd returned raised⟩
  | @handedOver a' b chain steps word returned starts blocks nested ih =>
    rw [List.getLast?_cons_cons] at last
    have silent := (notMem_of_blocks blocks).2
    obtain ⟨ended, failed⟩ := ih last
    refine ⟨fun returned' => ?_, fun raised => by simp [silent, failed raised]⟩
    obtain ⟨init, rfl, before⟩ := ended returned'
    refine ⟨_, (List.append_assoc _ init _).symm, ?_⟩
    simp [silent, before]

end Protocol

namespace Answered

variable {callback : Callback σ}

/-- What a run itself calls plugins for: it breaks off where it failed to get a plan, or goes through the
steps that it began, with a farewell if none of them handed over. -/
theorem marks_own (h : Answered e request s callback a s' log) :
    (a.Unanswered e ∧ a.records = [] ∧
      ∀ position < e.participants.length, marks position a.own = [.beforeRequest]) ∨
    (a.Unreadable e ∧ a.records = [] ∧
      ∀ position < e.participants.length, marks position a.own = [.beforeRequest, .afterReply]) ∨
    (a.Returned ∧ ∃ steps closing, Blocks 0 a.records steps ∧
      (a.Stays → closing = [.afterRun]) ∧
      (∀ r ∈ a.records, r.fate = .handedOver → closing = []) ∧
      ∀ position < e.participants.length, marks position a.own =
        [.beforeRequest, .afterReply, .afterParse] ++ steps ++ closing) := by
  cases h with
  | @failed q s' f asked found =>
    have own_eq : Account.own ⟨request, s, q, [], [], .error f⟩ = q.log := by
      simp [Account.own, found]
    cases asked with
    | failed prepared completed =>
      cases found
      refine .inl ⟨⟨_, _, _, _, _, _, prepared, completed, rfl⟩, rfl, fun position installed => ?_⟩
      have before := Hooks.marks_of_transform prepared (m := .beforeRequest) (fun _ => rfl) installed
      rw [marks] at before
      rw [own_eq]
      simp [marks, before]
    | unreadable prepared completed replied read =>
      cases found
      refine .inr (.inl ⟨⟨_, _, _, _, _, _, _, _, _, _, prepared, completed, replied, read, rfl⟩, rfl,
        fun position installed => ?_⟩)
      have before := Hooks.marks_of_transform prepared (m := .beforeRequest) (fun _ => rfl) installed
      have after := Hooks.marks_of_transform replied (m := .afterReply) (fun _ => rfl) installed
      rw [marks] at before after
      rw [own_eq]
      simp [marks, before, after]
    | found prepared completed replied read parsed => cases found
  | @answered q s₁ s'' reply plan records closing ending asked found walk =>
    cases asked with
    | failed prepared completed => cases found
    | unreadable prepared completed replied read => cases found
    | found prepared completed replied read parsed =>
      cases found
      have indices := walk.indices_eq
      refine .inr (.inr ⟨⟨ending, rfl⟩, records.flatMap Record.marks,
        if ending.phase = .done then [.afterRun] else [], blocks_of_indices indices, fun stays => ?_,
        fun r member ceded => ?_, fun position installed => ?_⟩)
      · obtain ⟨phase, -⟩ | ⟨-, init, last, rfl, ceded, -⟩ := walk.ending_cases
        · exact if_pos phase
        · exact absurd ceded (stays last (List.mem_append_right _ List.mem_cons_self))
      · obtain ⟨-, -, others⟩ | ⟨phase, -⟩ := walk.ending_cases
        · exact absurd ceded (others r member)
        · exact if_neg (by rw [phase]; exact Phase.noConfusion)
      · have before := Hooks.marks_of_transform prepared (m := .beforeRequest) (fun _ => rfl) installed
        have after := Hooks.marks_of_transform replied (m := .afterReply) (fun _ => rfl) installed
        have plan := Hooks.marks_of_transform parsed (m := .afterParse) (fun _ => rfl) installed
        have steps := marks_ownLog walk installed
        rw [marks] at before after plan
        rw [Account.own, marks_append, steps]
        simp [marks, before, after, plan]

/-- The marks of a request are those of the run itself, and after them those of the run that took over. -/
theorem marks_log (h : Answered e request s callback a s' log) (refuses : Refuses callback)
    (position : ℕ) : marks position log =
      marks position a.own ++ marks position (a.records.flatMap Record.nested) := by
  rw [marks, h.heard_log refuses position, List.map_append]
  rfl

end Answered

/-- The marks that a chain of runs leaves with every plugin are a word of the protocol. -/
theorem Chain.protocol (h : Chain e n request s chain result s' log) :
    ∃ word, Protocol e chain word ∧ ∀ position < e.participants.length, marks position log = word := by
  induction h with
  | @last n request s s' a log answered stays =>
    obtain ⟨-, -, silent⟩ := answered.of_stays (further_refuses e n) stays
    have own : ∀ position, marks position log = marks position a.own := by
      intro position
      rw [answered.marks_log (further_refuses e n) position, silent]
      exact List.append_nil _
    obtain ⟨raised, -, word⟩ | ⟨raised, -, word⟩ | ⟨returned, steps, closing, blocks, ends, -, word⟩ :=
      answered.marks_own
    · refine ⟨_, .unanswered raised, fun position installed => ?_⟩
      rw [own position, word position installed]
    · refine ⟨_, .unreadable raised, fun position installed => ?_⟩
      rw [own position, word position installed]
    · refine ⟨_, .finished returned stays blocks, fun position installed => ?_⟩
      rw [own position, word position installed, ends stays]
  | @link n request s s' t a r chain result log nested answered member ceded inner ih =>
    obtain ⟨word, protocol, told⟩ := ih
    obtain ⟨-, -, hnested⟩ := of_link answered member ceded inner
    obtain ⟨-, none_begun, -⟩ | ⟨-, none_begun, -⟩ | ⟨returned, steps, closing, blocks, -, ends, own⟩ :=
      answered.marks_own
    · rw [none_begun] at member
      exact absurd member List.not_mem_nil
    · rw [none_begun] at member
      exact absurd member List.not_mem_nil
    · obtain ⟨b, rest, rfl, hrequest, hsession, -⟩ := inner.head_eq
      obtain ⟨init, records, stays⟩ := answered.records_of_over member ceded
      have starts : a.Starts b := ⟨init, r, records, ceded, stays, hrequest, hsession⟩
      -- the failure of the nested run, if any, is reported without calling a plugin
      have silent : ∀ position, marks position (complaint result) = [] := by
        intro position
        rw [marks, heard_complaint, List.map_nil]
      refine ⟨_, .handedOver returned starts blocks protocol, fun position installed => ?_⟩
      rw [answered.marks_log (further_refuses e _) position, own position installed, hnested,
        marks_append, told position installed, silent position, ends r member ceded, List.append_nil,
        List.append_nil]

/-- A request that hands over once, to a run that is refused a further one and answers with a text. -/
example :
    marks 1 (run (.plain (.int 1) "" [insistent]) "go" (.fresh ())).log =
      [.beforeRequest, .afterReply, .afterParse, .beforeStep 0, .beforeRequest, .afterReply, .afterParse,
        .beforeStep 0, .beforeStep 1, .afterStep 1, .afterRun] := by
  decide +kernel

end Assistant

end Stepwise
