import Mathlib.Data.List.Basic
import Stepwise.Proofs.PlanRecords

/-!
The law of a run. The steps that are begun are the first ones of the plan, each once and in order; the
outputs of the run are those of the steps that completed; and every plugin is told of each of these
steps once, with the outputs so far. All of it follows by induction on the walk from what one record
says.
-/

namespace Stepwise

/-- The index of the step that a plugin is asked about. -/
def HookCall.askedIndex? : HookCall → Option ℕ
  | .beforeStep _ index _ => some index
  | _ => none

/-- The call itself, if it tells of a step that completed. -/
def HookCall.notice? : HookCall → Option HookCall
  | .afterStep plan index step outputs => some (.afterStep plan index step outputs)
  | _ => none

/-- The call itself, if it tells of the end of a plan. -/
def HookCall.farewell? : HookCall → Option HookCall
  | .afterRun plan outputs => some (.afterRun plan outputs)
  | _ => none

/-- An engine without capabilities, whose provider gives the same reply to every request. -/
def Engine.plain (limit : Value) (reply : String) (plugins : List (Plugin Unit)) : Engine Unit where
  settings := { Settings.standard with maxDepth := limit }
  site := ⟨⟨"", []⟩, ⟨"", []⟩, [], "", []⟩
  catalogue := .empty "base"
  plugins := plugins.map fun p _ => p
  host :=
    { complete := fun _ => pure reply
      command := fun _ text => pure ⟨true, text, some 0, "", "", none⟩
      execute := fun _ _ => pure .null
      files := fun _ => ⟨[]⟩
      putFiles := fun _ w => w }

namespace Dispatch

variable {σ : Type}

/-- A further request that fails leaves the outputs alone; one that does not may leave any. -/
def KeepsOutputs (callback : Option (Callback σ)) : Prop :=
  ∀ further, callback = some further → ∀ content s f s' log,
    further content s = ⟨.error f, s', log⟩ → s'.outputs = s.outputs

variable {e : Engine σ} {callback : Option (Callback σ)} {plan : List Step}

@[simp] theorem heard_description (position : ℕ) (step : Step) :
    heard position (description step) = [] := by
  unfold description
  split <;> rfl

namespace Record

/-- What a plugin hears of a step, if the step it is asked about is `c`. -/
def calls (plan : List Step) (r : Record σ) (c : Step) : List HookCall :=
  .beforeStep plan r.index c :: (r.notice? plan).toList

theorem calls_asked (plan : List Step) (r : Record σ) (c : Step) :
    (r.calls plan c).filterMap HookCall.askedIndex? = [r.index] := by
  unfold calls notice?
  cases r.output? <;> rfl

theorem calls_notice (plan : List Step) (r : Record σ) (c : Step) :
    (r.calls plan c).filterMap HookCall.notice? = (r.notice? plan).toList := by
  unfold calls notice?
  cases r.output? <;> rfl

theorem calls_farewell (plan : List Step) (r : Record σ) (c : Step) :
    (r.calls plan c).filterMap HookCall.farewell? = [] := by
  unfold calls notice?
  cases r.output? <;> rfl

end Record

namespace Begun

variable {index : ℕ} {planned : Step} {s s' : Session σ} {r : Record σ}

theorem index_eq (h : Begun e callback plan index planned s r s') : r.index = index := by
  cases h <;> rfl

theorem planned_eq (h : Begun e callback plan index planned s r s') : r.planned = planned := by
  cases h <;> rfl

/-- The plugins that prepare a step do not touch the outputs. -/
theorem ready_outputs (h : Begun e callback plan index planned s r s') :
    r.ready.outputs = s.outputs := by
  cases h <;> rfl

/-- A step that does not end the plan adds its output, if it has one. -/
theorem outputs_eq (h : Begun e callback plan index planned s r s') (keeps : KeepsOutputs callback)
    (on : r.fate ≠ .handedOver) : s'.outputs.items = s.outputs.items ++ r.output?.toList := by
  cases h with
  | completed prepared kind executed observed => rfl
  | failed prepared kind executed => exact (List.append_nil _).symm
  | unhandled prepared kind absent => exact (List.append_nil _).symm
  | refused prepared kind present called =>
    rw [keeps _ present _ _ _ _ _ called]
    exact (List.append_nil _).symm
  | handedOver prepared kind present called => exact absurd rfl on

/-- What a plugin hears of a step: it is asked about it, and told when it has completed. -/
theorem heard_own (h : Begun e callback plan index planned s r s') {position : ℕ}
    (installed : position < e.participants.length) :
    ∃ c, heard position r.own = r.calls plan c := by
  have asked : ∀ {step w hooks},
      Hooks.beforeStep e.participants plan index planned s.world = ⟨.ok step, w, hooks⟩ →
        ∃ c, heard position hooks = [.beforeStep plan index c] := by
    intro step w hooks prepared
    obtain ⟨_, _, _, prepared', hheard⟩ :=
      Hooks.beforeStep_spec e.participants plan index planned s.world
    obtain ⟨-, -, rfl⟩ := Outcome.mk.inj (prepared.symm.trans prepared')
    obtain ⟨c, hc⟩ := hheard position
    exact ⟨c, by rw [hc, if_pos installed]⟩
  cases h with
  | @completed step w w' w'' v hooks after deeds prepared kind executed observed =>
    obtain ⟨c, hc⟩ := asked prepared
    obtain ⟨_, _, observed', hheard⟩ := Hooks.observe_spec
      (.afterStep plan index step (s.outputs.append v).items) e.participants w'
    obtain ⟨-, -, rfl⟩ := Outcome.mk.inj (observed.symm.trans observed')
    refine ⟨c, ?_⟩
    simp [Record.own, hc, hheard, installed, Record.calls, Record.notice?, Record.output?, readied,
      Outputs.append]
  | failed prepared kind executed =>
    obtain ⟨c, hc⟩ := asked prepared
    exact ⟨c, by simp [Record.own, hc, Record.calls, Record.notice?, Record.output?]⟩
  | unhandled prepared kind absent =>
    obtain ⟨c, hc⟩ := asked prepared
    exact ⟨c, by simp [Record.own, hc, Record.calls, Record.notice?, Record.output?]⟩
  | refused prepared kind present called =>
    obtain ⟨c, hc⟩ := asked prepared
    exact ⟨c, by simp [Record.own, hc, Record.calls, Record.notice?, Record.output?]⟩
  | handedOver prepared kind present called =>
    obtain ⟨c, hc⟩ := asked prepared
    exact ⟨c, by simp [Record.own, hc, Record.calls, Record.notice?, Record.output?]⟩

end Begun

namespace Walk

variable {index : ℕ} {rest : List Step} {s s' : Session σ} {records : List (Record σ)}
variable {closing : List Event} {ending : Ending}

theorem executed_eq (h : Walk e callback plan index rest s records closing ending s') :
    ending.executed = index + records.length := by
  induction h with
  | finished observed => rfl
  | handedOver begun ceded => rfl
  | next begun on walk ih =>
    rw [ih, List.length_cons]
    omega

theorem indices_eq (h : Walk e callback plan index rest s records closing ending s') :
    records.map Record.index = List.range' index records.length := by
  induction h with
  | finished observed => rfl
  | handedOver begun ceded => simp [begun.index_eq]
  | next begun on walk ih => simp [List.range'_succ, begun.index_eq, ih]

/-- The steps that are begun are the first ones, in order. -/
theorem planned_eq (h : Walk e callback plan index rest s records closing ending s') :
    records.map Record.planned = rest.take records.length := by
  induction h with
  | finished observed => rfl
  | handedOver begun ceded => simp [begun.planned_eq]
  | next begun on walk ih => simp [begun.planned_eq, ih]

/-- A step is carried out with the outputs of those before it. -/
theorem ready_outputs (h : Walk e callback plan index rest s records closing ending s')
    (keeps : KeepsOutputs callback) (k : ℕ) (hk : k < records.length) :
    records[k].ready.outputs.items =
      s.outputs.items ++ (records.take k).filterMap Record.output? := by
  induction h generalizing k with
  | finished observed => exact absurd hk (Nat.not_lt_zero k)
  | handedOver begun ceded =>
    obtain rfl : k = 0 := Nat.lt_one_iff.mp hk
    simp [begun.ready_outputs]
  | next begun on walk ih =>
    cases k with
    | zero => simp [begun.ready_outputs]
    | succ k =>
      have hk' := Nat.lt_of_succ_lt_succ hk
      simp only [List.getElem_cons_succ, List.take_succ_cons, List.filterMap_cons]
      rw [ih k hk', begun.outputs_eq keeps on]
      cases Record.output? _ <;> simp

/-- The outputs of a run are those of the steps that completed. -/
theorem ending_outputs (h : Walk e callback plan index rest s records closing ending s')
    (keeps : KeepsOutputs callback) :
    ending.outputs = s.outputs.items ++ records.filterMap Record.output? := by
  induction h with
  | finished observed => exact (List.append_nil _).symm
  | handedOver begun ceded => simp [begun.ready_outputs, Record.output?, ceded]
  | next begun on walk ih =>
    rw [ih, begun.outputs_eq keeps on, List.filterMap_cons]
    cases Record.output? _ <;> simp

/-- What can be told of the calls about each step can be told of all calls. -/
theorem filterMap_heard {β : Type} (h : Walk e callback plan index rest s records closing ending s')
    {position : ℕ} (installed : position < e.participants.length) (f : HookCall → Option β)
    (g : Record σ → List β) (hg : ∀ r c, (r.calls plan c).filterMap f = g r) :
    (heard position (records.flatMap Record.own)).filterMap f = records.flatMap g := by
  induction h with
  | finished observed => rfl
  | handedOver begun ceded =>
    obtain ⟨c, hc⟩ := begun.heard_own installed
    simp [hc, hg]
  | next begun on walk ih =>
    obtain ⟨c, hc⟩ := begun.heard_own installed
    simp [hc, hg, ih]

/-- Only the end of a plan is told after its last step. -/
theorem heard_closing (h : Walk e callback plan index rest s records closing ending s') {position : ℕ}
    (installed : position < e.participants.length) :
    heard position closing =
      if ending.phase = .done then [.afterRun plan ending.outputs] else [] := by
  induction h with
  | @finished index s w closing observed =>
    obtain ⟨_, _, observed', hheard⟩ :=
      Hooks.observe_spec (.afterRun plan s.outputs.items) e.participants s.world
    obtain ⟨-, -, rfl⟩ := Outcome.mk.inj (observed.symm.trans observed')
    rw [hheard, if_pos installed, if_pos rfl]
  | handedOver begun ceded => rfl
  | next begun on walk ih => exact ih

/-- A plan ends in one of two ways: all its steps were begun and none handed over, or the last one that
was begun did. -/
theorem ending_cases (h : Walk e callback plan index rest s records closing ending s') :
    (ending.phase = .done ∧ records.length = rest.length ∧ ∀ r ∈ records, r.fate ≠ .handedOver) ∨
    (ending.phase = .recursing ∧ ∃ init r, records = init ++ [r] ∧ r.fate = .handedOver ∧
      ∀ r ∈ init, r.fate ≠ .handedOver) := by
  induction h with
  | finished observed => exact .inl ⟨rfl, rfl, fun r hr => absurd hr List.not_mem_nil⟩
  | @handedOver index planned rest s s' r begun ceded =>
    exact .inr ⟨rfl, [], r, rfl, ceded, fun r hr => absurd hr List.not_mem_nil⟩
  | @next index planned rest s s' s'' r records closing ending begun on walk ih =>
    obtain ⟨hphase, hlength, hfates⟩ | ⟨hphase, init, last, rfl, hover, hfates⟩ := ih
    · refine .inl ⟨hphase, by simp [hlength], fun r' hr' => ?_⟩
      obtain rfl | hr' := List.mem_cons.mp hr'
      · exact on
      · exact hfates r' hr'
    · refine .inr ⟨hphase, r :: init, last, rfl, hover, fun r' hr' => ?_⟩
      obtain rfl | hr' := List.mem_cons.mp hr'
      · exact on
      · exact hfates r' hr'

end Walk

/-- What the run itself logs, without what further requests log. -/
def ownLog (plan : List Step) (records : List (Record σ)) (closing : List Event) : List Event :=
  opening plan :: (records.flatMap Record.own ++ closing)

theorem filterMap_heard_ownLog {β : Type} {s s' : Session σ} {records : List (Record σ)}
    {closing : List Event} {ending : Ending}
    (h : Walk e callback plan 0 plan (cleared s) records closing ending s') {position : ℕ}
    (installed : position < e.participants.length) (f : HookCall → Option β)
    (g : Record σ → List β) (hg : ∀ r c, (r.calls plan c).filterMap f = g r) :
    (heard position (ownLog plan records closing)).filterMap f =
      records.flatMap g ++
        (if ending.phase = .done then [HookCall.afterRun plan ending.outputs] else []).filterMap f := by
  rw [← h.heard_closing installed, ← h.filterMap_heard installed f g hg]
  simp [ownLog, opening]

variable (e callback plan) in
/-- The law of a run that carries out a plan in a session, with the records of the steps it began. -/
structure Lawful (s : Session σ) (records : List (Record σ)) (closing : List Event) (ending : Ending)
    (s' : Session σ) : Prop where
  /-- The records are those of the steps that are begun, one after the other. -/
  walk : Walk e callback plan 0 plan (cleared s) records closing ending s'
  /-- The run comes to its end, and its log is made of those of the steps. -/
  result : run e callback plan s =
    ⟨.ok ending, s', opening plan :: (records.flatMap Record.log ++ closing)⟩
  /-- The machine makes at most three visits more than the plan has steps. -/
  visits : ∃ n c, n ≤ plan.length + 3 ∧
    Passage e callback n .start (Course.ofPlan plan s)
      (opening plan :: (records.flatMap Record.log ++ closing)) c ∧ c.ending = ending
  /-- The steps that are counted are the first ones of the plan, each begun once and in order. -/
  executed : ending.executed = records.length
  indices : records.map Record.index = List.range records.length
  planned : records.map Record.planned = plan.take records.length
  asked : ∀ position < e.participants.length,
    (heard position (ownLog plan records closing)).filterMap HookCall.askedIndex? =
      List.range records.length
  /-- The outputs are those of the steps that completed, and a step finds those of the steps before it. -/
  outputs : ending.outputs = records.filterMap Record.output?
  ready : ∀ k (hk : k < records.length),
    records[k].ready.outputs.items = (records.take k).filterMap Record.output?
  /-- Every plugin is told once of each step that completed, and once of the end of a plan that was
  carried out to its end. -/
  noticed : ∀ position < e.participants.length,
    (heard position (ownLog plan records closing)).filterMap HookCall.notice? =
      records.filterMap (Record.notice? plan)
  farewell : ∀ position < e.participants.length,
    (heard position (ownLog plan records closing)).filterMap HookCall.farewell? =
      if ending.phase = .done then [.afterRun plan ending.outputs] else []
  /-- The plan is carried out to its end unless the last step that was begun handed over. -/
  ends : (ending.phase = .done ∧ records.length = plan.length ∧ ∀ r ∈ records, r.fate ≠ .handedOver) ∨
    (ending.phase = .recursing ∧ ∃ init r, records = init ++ [r] ∧ r.fate = .handedOver ∧
      ∀ r ∈ init, r.fate ≠ .handedOver)

/-- A walk is all that the law of a run needs. -/
theorem lawful_of_walk {s s' : Session σ} {records : List (Record σ)} {closing : List Event}
    {ending : Ending} (walk : Walk e callback plan 0 plan (cleared s) records closing ending s')
    (keeps : KeepsOutputs callback) : Lawful e callback plan s records closing ending s' where
  walk := walk
  result := run_of_walk walk
  visits := by
    obtain ⟨n, c, hn, passage, hending, -⟩ := passage_start_of_walk walk
    exact ⟨n, c, hn, passage, hending⟩
  executed := by simpa using walk.executed_eq
  indices := by rw [walk.indices_eq, List.range_eq_range']
  planned := walk.planned_eq
  asked position installed := by
    have last : (if ending.phase = .done then [HookCall.afterRun plan ending.outputs] else []).filterMap
        HookCall.askedIndex? = [] := by
      split <;> rfl
    rw [filterMap_heard_ownLog walk installed _ _ (Record.calls_asked plan), last,
      List.append_nil, List.range_eq_range', ← walk.indices_eq, List.map_eq_flatMap]
  outputs := walk.ending_outputs keeps
  ready := walk.ready_outputs keeps
  noticed position installed := by
    have last : (if ending.phase = .done then [HookCall.afterRun plan ending.outputs] else []).filterMap
        HookCall.notice? = [] := by
      split <;> rfl
    rw [filterMap_heard_ownLog walk installed _ _ (Record.calls_notice plan), last, List.append_nil,
      List.filterMap_eq_flatMap_toList]
  farewell position installed := by
    rw [filterMap_heard_ownLog walk installed _ _ (Record.calls_farewell plan)]
    split <;> simp [HookCall.farewell?]
  ends := walk.ending_cases

/-- Every plan is carried out by a lawful run, whatever the plugins answer and the collaborators do; and
so is every list of items, since each of them stands for a step. -/
theorem run_lawful (keeps : KeepsOutputs callback) (plan : List Step) (s : Session σ) :
    ∃ records closing ending s', Lawful e callback plan s records closing ending s' ∧
      ∀ items, Plan.ofItems items = plan →
        runValue e callback (.list items) s =
          ⟨.ok ending, s', opening plan :: (records.flatMap Record.log ++ closing)⟩ := by
  obtain ⟨records, closing, ending, s', walk⟩ := walk_total e callback plan plan 0 (cleared s)
  refine ⟨records, closing, ending, s', lawful_of_walk walk keeps, fun items described => ?_⟩
  have read : Plan.ofValue (.list items) = .ok plan := congrArg Except.ok described
  have carried : runValue e callback (.list items) s = run e callback plan s := by
    simp [runValue, read, Act.after_nil]
  rw [carried, run_of_walk walk]

/-- A further request that is refused for one content, and leaves an output of its own for any other. -/
def choosy (refused : String) : Callback Unit := fun content =>
  if content = refused then Act.fail .tooDeep
  else Act.change fun s => { s with outputs := ⟨[.text content]⟩ }

theorem keepsOutputs_choosy (refused : String) : KeepsOutputs (some (choosy refused)) := by
  rintro further ⟨⟩ content s f s' log called
  unfold choosy at called
  split at called <;> cases called
  rfl

/-- A text, a request that is refused, one that is not, and a text that is never reached. -/
def mixedItems : List Value :=
  [.text "first", .object [("type", .int 5), ("content", .text "no")],
    .object [("type", .int 5), ("content", .text "yes")], .text "last"]

theorem run_lawful_mixed :
    KeepsOutputs (some (choosy "no")) ∧
      (∃ records closing ending s', Lawful (.plain (.int 5) "" []) (some (choosy "no"))
        (Plan.ofItems mixedItems) (.fresh ()) records closing ending s' ∧
        ∀ items, Plan.ofItems items = Plan.ofItems mixedItems →
          runValue (.plain (.int 5) "" []) (some (choosy "no")) (.list items) (.fresh ()) =
            ⟨.ok ending, s',
              opening (Plan.ofItems mixedItems) :: (records.flatMap Record.log ++ closing)⟩) ∧
      (runValue (.plain (.int 5) "" []) (some (choosy "no")) (.list mixedItems) (.fresh ())).result =
        .ok ⟨.recursing, 3, [.text "first"]⟩ :=
  ⟨keepsOutputs_choosy "no", run_lawful (keepsOutputs_choosy "no") _ _, rfl⟩

end Dispatch

end Stepwise
