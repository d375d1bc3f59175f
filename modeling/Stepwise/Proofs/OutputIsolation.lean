import Mathlib.Data.List.Basic
import Stepwise.Proofs.RequestChain

/-!
Outputs stay within their run. A step is carried out with the outputs of the completed steps of its own
run before it, and plugins are shown no others, whatever the session held when the run started and
whatever the runs below it left behind. What plugins hear of a request is what they hear of each run of
its chain, one run after the other.
-/

namespace Stepwise

namespace Dispatch

variable {σ : Type} {e : Engine σ} {callback : Callback σ} {plan : List Step}

/-- What becomes of a step with a result. -/
def Fate.ofResult : Except Fault Value → Fate
  | .ok v => .completed v
  | .error f => .failed f

/-- A step of any other kind than a further request becomes what executing it with the outputs so far
comes to. -/
theorem Begun.fate_eq {callback : Option (Callback σ)} {index : ℕ} {planned : Step}
    {s s' : Session σ} {r : Record σ} (h : Begun e callback plan index planned s r s')
    (kind : r.step.kind ≠ .recurse) :
    r.fate = .ofResult
      (execute e r.ready.outputs r.step.kind r.step.content r.ready.world).result := by
  cases h with
  | completed prepared other executed observed => simp [readied, executed, Fate.ofResult]
  | failed prepared other executed => simp [readied, executed, Fate.ofResult]
  | unhandled prepared other absent => exact absurd other kind
  | refused prepared other present called => exact absurd other kind
  | handedOver prepared other present called => exact absurd other kind

/-- What plugins hear while a plan is carried out is what the run lets them hear, and after that what
the further request does. -/
theorem Walk.heard_log {index : ℕ} {rest : List Step} {s s' : Session σ} {records : List (Record σ)}
    {closing : List Event} {ending : Ending}
    (h : Walk e (some callback) plan index rest s records closing ending s')
    (refuses : Refuses callback) (position : ℕ) :
    heard position (records.flatMap Record.log ++ closing) =
      heard position (records.flatMap Record.own ++ closing) ++
        heard position (records.flatMap Record.nested) := by
  induction h with
  | finished observed => simp
  | handedOver begun ceded =>
    cases begun with
    | handedOver prepared kind present called => simp [Record.log, Record.own]
    | _ => cases ceded
  | next begun on walk ih =>
    obtain ⟨-, -, silent⟩ := begun.frame refuses on
    rw [List.flatMap_cons, List.append_assoc, heard_append, ih]
    simp [Record.log, Record.own, silent]

/-- The outputs of the steps that completed among the first ones of a run. -/
def outputsOf (records : List (Record σ)) (k : ℕ) : List Value :=
  (records.take k).filterMap Record.output?

theorem outputsOf_length (records : List (Record σ)) :
    outputsOf records records.length = records.filterMap Record.output? := by
  rw [outputsOf, List.take_length]

theorem outputsOf_succ (records : List (Record σ)) (k : ℕ) (hk : k < records.length) :
    outputsOf records (k + 1) = outputsOf records k ++ records[k].output?.toList := by
  unfold outputsOf
  rw [← List.take_append_getElem hk, List.filterMap_append]
  cases h : records[k].output? <;> simp [h]

namespace Lawful

variable {callback : Option (Callback σ)} {s s' : Session σ} {records : List (Record σ)}
variable {closing : List Event} {ending : Ending}

theorem ready_eq (h : Lawful e callback plan s records closing ending s') (k : ℕ)
    (hk : k < records.length) : records[k].ready.outputs = ⟨outputsOf records k⟩ := by
  rw [outputsOf, ← h.ready k hk]

/-- A plugin that is told of a step is shown the outputs up to that step. -/
theorem notice_outputs (h : Lawful e callback plan s records closing ending s') {position : ℕ}
    (installed : position < e.participants.length) {plan' : List Step} {index : ℕ} {step : Step}
    {outputs : List Value}
    (member : .afterStep plan' index step outputs ∈ heard position (ownLog plan records closing)) :
    index < records.length ∧ outputs = outputsOf records (index + 1) := by
  have told : .afterStep plan' index step outputs ∈ records.filterMap (Record.notice? plan) := by
    rw [← h.noticed position installed]
    exact List.mem_filterMap.mpr ⟨_, member, rfl⟩
  obtain ⟨r, hr, hnotice⟩ := List.mem_filterMap.mp told
  obtain ⟨v, hv, hcall⟩ := Option.map_eq_some_iff.mp hnotice
  obtain ⟨k, hk, rfl⟩ := List.getElem_of_mem hr
  have hindex : records[k].index = k := by
    have here : (records.map Record.index)[k]? = (List.range records.length)[k]? := by
      rw [h.indices]
    simpa [hk] using here
  cases hcall
  rw [hindex]
  exact ⟨hk, by rw [outputsOf_succ records k hk, hv, h.ready_eq k hk]; rfl⟩

/-- A plugin that is told of the end of the plan is shown all outputs. -/
theorem farewell_outputs (h : Lawful e callback plan s records closing ending s') {position : ℕ}
    (installed : position < e.participants.length) {plan' : List Step} {outputs : List Value}
    (member : .afterRun plan' outputs ∈ heard position (ownLog plan records closing)) :
    outputs = outputsOf records records.length := by
  have told : .afterRun plan' outputs ∈
      (heard position (ownLog plan records closing)).filterMap HookCall.farewell? :=
    List.mem_filterMap.mpr ⟨_, member, rfl⟩
  rw [h.farewell position installed] at told
  split at told
  · cases List.mem_singleton.mp told
    rw [h.outputs, outputsOf_length]
  · exact absurd told List.not_mem_nil

/-- A run that hands over ends with its own outputs. -/
theorem ending_of_over (h : Lawful e callback plan s records closing ending s') {r : Record σ}
    (member : r ∈ records) (ceded : r.fate = .handedOver) :
    ending = ⟨.recursing, records.length, outputsOf records records.length⟩ := by
  obtain ⟨-, -, stays⟩ | ⟨phase, -⟩ := h.ends
  · exact absurd ceded (stays r member)
  · rw [outputsOf_length, ← phase, ← h.executed, ← h.outputs]

end Lawful

end Dispatch

namespace Assistant

open Dispatch

variable {σ : Type} {e : Engine σ} {request : String} {s s' : Session σ} {a : Account σ}
variable {log : List Event}

/-- While a plan is asked for, plugins are shown no outputs. -/
theorem Asked.no_outputs {q : Inquiry} (h : Asked e request s q s') {position : ℕ} {c : HookCall}
    (member : c ∈ heard position q.log) : c.notice? = none ∧ c.farewell? = none := by
  cases h with
  | failed prepared completed =>
    simp only [heard_append, heard_planning, heard_deeds, List.append_nil] at member
    obtain ⟨b, rfl⟩ := Hooks.heard_of_transform prepared member
    exact ⟨rfl, rfl⟩
  | unreadable prepared completed replied read =>
    simp only [heard_append, heard_planning, heard_deeds, heard_journaled, List.nil_append,
      List.append_nil, List.mem_append] at member
    obtain member | member := member
    · obtain ⟨b, rfl⟩ := Hooks.heard_of_transform prepared member
      exact ⟨rfl, rfl⟩
    · obtain ⟨b, rfl⟩ := Hooks.heard_of_transform replied member
      exact ⟨rfl, rfl⟩
  | found prepared completed replied read parsed =>
    simp only [heard_append, heard_planning, heard_deeds, heard_journaled, List.nil_append,
      List.append_nil, List.mem_append] at member
    obtain member | member | member := member
    · obtain ⟨b, rfl⟩ := Hooks.heard_of_transform prepared member
      exact ⟨rfl, rfl⟩
    · obtain ⟨b, rfl⟩ := Hooks.heard_of_transform replied member
      exact ⟨rfl, rfl⟩
    · obtain ⟨b, rfl⟩ := Hooks.heard_of_transform parsed member
      exact ⟨rfl, rfl⟩

/-- What the run itself logged while it asked for a plan and carried it out. -/
def Account.own (a : Account σ) : List Event :=
  a.inquiry.log ++
    match a.inquiry.found with
    | .ok (_, plan) => ownLog plan a.records a.closing
    | .error _ => []

variable (e) in
/-- The outputs that a run deals with are those of its own steps. -/
structure Isolated (a : Account σ) : Prop where
  /-- A step is begun with the outputs of the steps before it that completed. -/
  ready : ∀ k (hk : k < a.records.length), a.records[k].ready.outputs = ⟨outputsOf a.records k⟩
  /-- A reference stands for the output of the step with that number among those that completed so
  far, and for the empty text if there is none yet. -/
  references : ∀ k (hk : k < a.records.length) (i : ℕ),
    Catalogue.resolveArguments [.reference i] a.records[k].ready.outputs =
      [(outputsOf a.records k)[i]?.getD (.text "")]
  /-- What a step comes to depends on no other outputs. -/
  fates : ∀ k (hk : k < a.records.length), a.records[k].step.kind ≠ .recurse →
    a.records[k].fate = .ofResult (execute e ⟨outputsOf a.records k⟩ a.records[k].step.kind
      a.records[k].step.content a.records[k].ready.world).result
  /-- Plugins are shown the outputs up to the step that they are told of, and at the end all of them. -/
  notices : ∀ position < e.participants.length, ∀ plan index step outputs,
    .afterStep plan index step outputs ∈ heard position a.own →
      index < a.records.length ∧ outputs = outputsOf a.records (index + 1)
  farewells : ∀ position < e.participants.length, ∀ plan outputs,
    .afterRun plan outputs ∈ heard position a.own → outputs = outputsOf a.records a.records.length
  /-- The result of the run has its outputs, whatever a run that it handed over to did to the session. -/
  outputs : ∀ ending, a.result = .ok ending → ending.outputs = outputsOf a.records a.records.length
  handedOver : ∀ r ∈ a.records, r.fate = .handedOver →
    a.result = .ok ⟨.recursing, a.records.length, outputsOf a.records a.records.length⟩

/-- Every run keeps to its own outputs, if further requests that are refused leave all as it was. -/
theorem Answered.isolated {callback : Callback σ} (h : Answered e request s callback a s' log)
    (refuses : Refuses callback) : Isolated e a := by
  cases h with
  | @failed q s' f asked found =>
    have own_eq : Account.own ⟨request, s, q, [], [], .error f⟩ = q.log := by
      simp [Account.own, found]
    have none_begun : ∀ k, ¬ k < ([] : List (Record σ)).length := fun k => Nat.not_lt_zero k
    refine ⟨fun k hk => absurd hk (none_begun k), fun k hk => absurd hk (none_begun k),
      fun k hk => absurd hk (none_begun k), ?_, ?_, fun ending ended => ?_,
      fun r hr => absurd hr List.not_mem_nil⟩
    · intro position _ plan index step outputs member
      rw [own_eq] at member
      have unshown := (asked.no_outputs member).1
      cases unshown
    · intro position _ plan outputs member
      rw [own_eq] at member
      have unshown := (asked.no_outputs member).2
      cases unshown
    · cases ended
  | @answered q s₁ s'' reply steps records closing ending asked found walk =>
    have law := lawful_of_walk walk refuses.keepsOutputs
    have in_plan : ∀ {position c}, c.notice? ≠ none ∨ c.farewell? ≠ none →
        c ∈ heard position (Account.own ⟨request, s, q, records, closing, .ok ending⟩) →
        c ∈ heard position (ownLog steps records closing) := by
      intro position c shown member
      simp only [Account.own, found, heard_append, List.mem_append] at member
      obtain member | member := member
      · obtain ⟨hnotice, hfarewell⟩ := asked.no_outputs member
        obtain h | h := shown
        · exact absurd hnotice h
        · exact absurd hfarewell h
      · exact member
    refine ⟨law.ready_eq, fun k hk i => ?_, fun k hk kind => ?_, ?_, ?_, fun ending' ended => ?_,
      fun r hr ceded => ?_⟩
    · rw [law.ready_eq k hk]
      simp [Catalogue.resolveArguments, Outputs.get, Outputs.absent]
    · obtain ⟨_, _, _, _, begun⟩ := walk.begun_of_mem (List.getElem_mem hk)
      rw [← law.ready_eq k hk]
      exact begun.fate_eq kind
    · intro position installed plan index step outputs member
      exact law.notice_outputs installed (in_plan (.inl (Option.some_ne_none _)) member)
    · intro position installed plan outputs member
      exact law.farewell_outputs installed (in_plan (.inr (Option.some_ne_none _)) member)
    · rw [← Except.ok.inj ended, law.outputs, outputsOf_length]
    · exact congrArg Except.ok (law.ending_of_over hr ceded)

/-- What plugins hear of a request is what they hear of the run itself, and after that of the run that
took over. -/
theorem Answered.heard_log {callback : Callback σ} (h : Answered e request s callback a s' log)
    (refuses : Refuses callback) (position : ℕ) :
    heard position log =
      heard position a.own ++ heard position (a.records.flatMap Record.nested) := by
  cases h with
  | failed asked found => simp [Account.own, found]
  | answered asked found walk =>
    have inner := walk.heard_log refuses position
    rw [heard_append] at inner
    simp [Account.own, found, ownLog, opening, inner]

/-- What plugins hear of a request is what they hear of the runs in its chain, one after the other. -/
theorem Chain.heard_eq {n : ℕ} {chain : List (Account σ)} {result : Except Fault Ending}
    (h : Chain e n request s chain result s' log) (position : ℕ) :
    heard position log = chain.flatMap fun a => heard position a.own := by
  induction h with
  | @last n request s s' a log answered stays =>
    obtain ⟨-, -, silent⟩ := answered.of_stays (further_refuses e n) stays
    rw [answered.heard_log (further_refuses e n) position, silent]
    simp
  | @link n request s s' t a r chain result log nested answered member ceded inner ih =>
    obtain ⟨-, -, hnested⟩ := of_link answered member ceded inner
    rw [answered.heard_log (further_refuses e _) position, hnested, heard_append, ih]
    simp

end Assistant

end Stepwise
