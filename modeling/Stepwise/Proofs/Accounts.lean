import Mathlib.Data.List.Basic
import Stepwise.Assistant
import Stepwise.Proofs.RunLaw

/-!
The account of a run. First comes the inquiry, in which the provider is asked for a plan; if one is
found, the records of its steps follow, and the exchange is remembered. Every request has its account,
and answering the request is what the account says.
-/

namespace Stepwise

/-- What the provider was asked with, if an entry of the log tells of that. -/
def Event.planning? : Event → Option (List Message)
  | .planning messages => some messages
  | _ => none

/-- What the provider was asked for plans with, in order. -/
def planRequests (log : List Event) : List (List Message) := log.filterMap Event.planning?

@[simp] theorem planRequests_nil : planRequests [] = [] := rfl

@[simp] theorem planRequests_append (log log' : List Event) :
    planRequests (log ++ log') = planRequests log ++ planRequests log' :=
  List.filterMap_append

@[simp] theorem planRequests_cons (x : Event) (log : List Event) :
    planRequests (x :: log) = x.planning?.toList ++ planRequests log := by
  cases h : x.planning? <;> simp [planRequests, h]

@[simp] theorem planRequests_deeds (deeds : List Deed) : planRequests (deeds.map .deed) = [] := by
  induction deeds with
  | nil => rfl
  | cons d deeds ih => exact ih

/-- Calling plugins asks the provider for no plan. -/
theorem planRequests_of_plugins {log : List Event} (h : ∀ x ∈ log, x.isPluginEntry) :
    planRequests log = [] := by
  refine List.filterMap_eq_nil_iff.mpr fun x hx => ?_
  have entry := h x hx
  cases x <;> simp_all [Event.isPluginEntry, Event.planning?]

namespace Dispatch

variable {σ : Type} {e : Engine σ} {callback : Option (Callback σ)} {plan : List Step}

@[simp] theorem planRequests_description (step : Step) : planRequests (description step) = [] := by
  unfold description
  split <;> rfl

/-- A run asks for no plan while it carries out a step; only a further request does. -/
theorem Begun.planRequests_log {index : ℕ} {planned : Step} {s s' : Session σ} {r : Record σ}
    (h : Begun e callback plan index planned s r s') : planRequests r.log = planRequests r.nested := by
  cases h with
  | completed prepared kind executed observed =>
    simp [Record.log, planRequests_of_plugins (Hooks.entries_of_transform prepared),
      planRequests_of_plugins (Hooks.entries_of_transform observed)]
  | failed prepared kind executed =>
    simp [Record.log, planRequests_of_plugins (Hooks.entries_of_transform prepared), Event.planning?]
  | unhandled prepared kind absent =>
    simp [Record.log, planRequests_of_plugins (Hooks.entries_of_transform prepared), Event.planning?]
  | refused prepared kind present called =>
    simp [Record.log, planRequests_of_plugins (Hooks.entries_of_transform prepared), Event.planning?]
  | handedOver prepared kind present called =>
    simp [Record.log, planRequests_of_plugins (Hooks.entries_of_transform prepared), Event.planning?]

/-- All plans that are asked for while a plan is carried out are those of further requests. -/
theorem Walk.planRequests_log {index : ℕ} {rest : List Step} {s s' : Session σ}
    {records : List (Record σ)} {closing : List Event} {ending : Ending}
    (h : Walk e callback plan index rest s records closing ending s') :
    planRequests (records.flatMap Record.log ++ closing) =
      planRequests (records.flatMap Record.nested) := by
  induction h with
  | finished observed =>
    simp [planRequests_of_plugins (Hooks.entries_of_transform observed)]
  | handedOver begun ceded => simp [begun.planRequests_log]
  | next begun on walk ih => simpa [begun.planRequests_log] using ih

end Dispatch

namespace Assistant

open Dispatch

variable {σ : Type}

/-- What came of asking for a plan: the messages before and after the plugins, the reply as the plugins
leave it with the plan in it, and the log. -/
structure Inquiry where
  asked : List Message
  sent : List Message
  found : Except Fault (String × List Step)
  log : List Event

/-- The notes that are left in the journal. -/
def journaled (notes : List String) : List Event :=
  notes.map fun text => .deed (.diagnostic .debug .planning text)

@[simp] theorem heard_journaled (position : ℕ) (notes : List String) :
    heard position (journaled notes) = [] := by
  induction notes with
  | nil => rfl
  | cons text notes ih => exact ih

section

variable (e : Engine σ) (request : String) (s : Session σ)

/-- What asking for a plan in a session comes to: the provider fails, its reply cannot be read, or there
is a plan. -/
inductive Asked : Inquiry → Session σ → Prop
  | failed {sent : List Message} {f : Fault} {w w' : σ} {hooks : List Event} {deeds : List Deed}
      (prepared : Hooks.beforeRequest e.participants (messagesFor e s.history request) s.world =
        ⟨.ok sent, w, hooks⟩)
      (completed : e.complete .plan sent w = ⟨.error f, w', deeds⟩) :
      Asked ⟨messagesFor e s.history request, sent, .error f,
          hooks ++ .planning sent :: deeds.map .deed⟩
        { s with world := w' }
  | unreadable {sent : List Message} {raw reply : String} {f : Fault} {w w' w'' : σ}
      {hooks hooks' : List Event} {deeds : List Deed}
      (prepared : Hooks.beforeRequest e.participants (messagesFor e s.history request) s.world =
        ⟨.ok sent, w, hooks⟩)
      (completed : e.complete .plan sent w = ⟨.ok raw, w', deeds⟩)
      (replied : Hooks.afterReply e.participants raw w' = ⟨.ok reply, w'', hooks'⟩)
      (read : Plan.ofReply reply = .error f) :
      Asked ⟨messagesFor e s.history request, sent, .error f,
          hooks ++ .planning sent :: (deeds.map .deed ++ hooks' ++ journaled (Plan.replyNotes reply))⟩
        { s with world := w'' }
  | found {sent : List Message} {raw reply : String} {steps steps' : List Step} {w w' w'' w₃ : σ}
      {hooks hooks' hooks'' : List Event} {deeds : List Deed}
      (prepared : Hooks.beforeRequest e.participants (messagesFor e s.history request) s.world =
        ⟨.ok sent, w, hooks⟩)
      (completed : e.complete .plan sent w = ⟨.ok raw, w', deeds⟩)
      (replied : Hooks.afterReply e.participants raw w' = ⟨.ok reply, w'', hooks'⟩)
      (read : Plan.ofReply reply = .ok steps)
      (parsed : Hooks.afterParse e.participants steps w'' = ⟨.ok steps', w₃, hooks''⟩) :
      Asked ⟨messagesFor e s.history request, sent, .ok (reply, steps'),
          hooks ++ .planning sent ::
            (deeds.map .deed ++ hooks' ++ journaled (Plan.replyNotes reply) ++ hooks'')⟩
        { s with world := w₃ }

/-- Asking for a plan always comes to something. -/
theorem asked_total : ∃ q s', Asked e request s q s' := by
  obtain ⟨sent, w, hooks, prepared, -⟩ := Hooks.transform_spec Hooks.acceptMessages .beforeRequest
    e.participants 0 (messagesFor e s.history request) s.world
  rcases completed : e.complete .plan sent w with ⟨f | raw, w', deeds⟩
  · exact ⟨_, _, .failed prepared completed⟩
  · obtain ⟨reply, w'', hooks', replied, -⟩ := Hooks.transform_spec Hooks.acceptReply .afterReply
      e.participants 0 raw w'
    rcases read : Plan.ofReply reply with f | steps
    · exact ⟨_, _, .unreadable prepared completed replied read⟩
    · obtain ⟨steps', w₃, hooks'', parsed, -⟩ := Hooks.transform_spec Hooks.acceptPlan .afterParse
        e.participants 0 steps w''
      exact ⟨_, _, .found prepared completed replied read parsed⟩

end

@[simp] theorem forM_note_apply (notes : List String) (s : Session σ) :
    (forM notes (Session.note .planning) : Act Event (Session σ) PUnit) s =
      ⟨.ok (), s, journaled notes⟩ := by
  induction notes with
  | nil => rfl
  | cons text notes ih =>
    rw [List.forM_cons, Act.bind_apply, Session.note_apply, Outcome.andThen_ok, ih]
    rfl

variable {e : Engine σ} {request : String} {s s' : Session σ} {q : Inquiry}

/-- Asking for a plan is what the inquiry says. -/
theorem plan_of_asked (h : Asked e request s q s') : plan e request s = ⟨q.found, s', q.log⟩ := by
  cases h with
  | failed prepared completed => simp [plan, prepared, completed]
  | unreadable prepared completed replied read => simp [plan, prepared, completed, replied, read]
  | found prepared completed replied read parsed =>
    simp [plan, prepared, completed, replied, read, parsed]

namespace Asked

/-- Asking for a plan changes nothing but the world outside. -/
theorem session_eq (h : Asked e request s q s') : s' = { s with world := s'.world } := by
  cases h <;> rfl

/-- What is asked, before the plugins, is told by the conversation so far and the request. -/
theorem asked_eq (h : Asked e request s q s') : q.asked = messagesFor e s.history request := by
  cases h <;> rfl

/-- The provider is asked once, with what the plugins make of the messages; whatever else is logged asks
for no plan. -/
theorem log_eq (h : Asked e request s q s') :
    ∃ w hooks rest, Hooks.beforeRequest e.participants q.asked s.world = ⟨.ok q.sent, w, hooks⟩ ∧
      q.log = hooks ++ .planning q.sent :: rest ∧ planRequests rest = [] := by
  have notes : ∀ reply, planRequests (journaled (Plan.replyNotes reply)) = [] := by
    intro reply
    simp [planRequests, journaled, Event.planning?]
  cases h with
  | failed prepared completed => exact ⟨_, _, _, prepared, rfl, planRequests_deeds _⟩
  | unreadable prepared completed replied read =>
    refine ⟨_, _, _, prepared, rfl, ?_⟩
    simp [notes, planRequests_of_plugins (Hooks.entries_of_transform replied)]
  | found prepared completed replied read parsed =>
    refine ⟨_, _, _, prepared, rfl, ?_⟩
    simp [notes, planRequests_of_plugins (Hooks.entries_of_transform replied),
      planRequests_of_plugins (Hooks.entries_of_transform parsed)]

theorem planRequests_log (h : Asked e request s q s') : planRequests q.log = [q.sent] := by
  obtain ⟨w, hooks, rest, prepared, hlog, hrest⟩ := h.log_eq
  rw [hlog, planRequests_append, planRequests_of_plugins (Hooks.entries_of_transform prepared),
    planRequests_cons, hrest]
  rfl

end Asked

/-- What a run tells of itself: its request, the session in which it started, the inquiry, the records
of the steps it began with what was logged after the last of them, and the result. -/
structure Account (σ : Type) where
  request : String
  session : Session σ
  inquiry : Inquiry
  records : List (Record σ)
  closing : List Event
  result : Except Fault Ending

/-- An exchange as it is remembered. -/
def exchange (request reply : String) : List Message := [⟨.user, request⟩, ⟨.assistant, reply⟩]

/-- The line before a plan of several steps. -/
def heading (steps : List Step) : List Event :=
  if 1 < steps.length then [.deed (.show .info "Executing steps...")] else []

/-- The line after a plan that did more than to answer, and the note about the ending. -/
def conclusion (steps : List Step) (depth : ℕ) (ending : Ending) : List Event :=
  (if isSingleAnswer steps then [] else [.deed (.show .success "Execution completed.")]) ++
    [.deed (.diagnostic .debug .service (endingNote depth ending))]

@[simp] theorem heard_heading (position : ℕ) (steps : List Step) :
    heard position (heading steps) = [] := by
  unfold heading
  split <;> rfl

@[simp] theorem heard_conclusion (position : ℕ) (steps : List Step) (depth : ℕ) (ending : Ending) :
    heard position (conclusion steps depth ending) = [] := by
  unfold conclusion
  split <;> rfl

@[simp] theorem planRequests_heading (steps : List Step) : planRequests (heading steps) = [] := by
  unfold heading
  split <;> rfl

@[simp] theorem planRequests_conclusion (steps : List Step) (depth : ℕ) (ending : Ending) :
    planRequests (conclusion steps depth ending) = [] := by
  unfold conclusion
  split <;> rfl

variable (e request s) in
/-- What answering a request comes to, when its plan hands over to `callback`: the account of the run,
the session that is left, and the log. -/
inductive Answered (callback : Callback σ) : Account σ → Session σ → List Event → Prop
  | failed {q : Inquiry} {s' : Session σ} {f : Fault}
      (asked : Asked e request s q s') (found : q.found = .error f) :
      Answered callback ⟨request, s, q, [], [], .error f⟩ s' q.log
  | answered {q : Inquiry} {s' s'' : Session σ} {reply : String} {steps : List Step}
      {records : List (Record σ)} {closing : List Event} {ending : Ending}
      (asked : Asked e request s q s') (found : q.found = .ok (reply, steps))
      (walk : Walk e (some callback) steps 0 steps (cleared s') records closing ending s'') :
      Answered callback ⟨request, s, q, records, closing, .ok ending⟩
        { s'' with history := s''.history ++ exchange request reply }
        (q.log ++ (heading steps ++
          (opening steps :: (records.flatMap Record.log ++ closing) ++
            conclusion steps s''.depth ending)))

/-- Every request has its account. -/
theorem answered_total (e : Engine σ) (callback : Callback σ) (request : String) (s : Session σ) :
    ∃ a s' log, Answered e request s callback a s' log := by
  obtain ⟨q, s', asked⟩ := asked_total e request s
  rcases found : q.found with f | ⟨reply, steps⟩
  · exact ⟨_, _, _, .failed asked found⟩
  · obtain ⟨records, closing, ending, s'', walk⟩ :=
      walk_total e (some callback) steps steps 0 (cleared s')
    exact ⟨_, _, _, .answered asked found walk⟩

@[simp] theorem announce_apply (steps : List Step) (s : Session σ) :
    announce steps s = ⟨.ok (), s, heading steps⟩ := by
  unfold announce heading
  split <;> rfl

@[simp] theorem conclude_apply (steps : List Step) (s : Session σ) :
    conclude steps s = ⟨.ok (), s,
      if isSingleAnswer steps then [] else [.deed (.show .success "Execution completed.")]⟩ := by
  unfold conclude
  split <;> rfl

/-- Answering a request is what the account says. -/
theorem answerWith_of_answered {callback : Callback σ} {a : Account σ} {log : List Event}
    (h : Answered e request s callback a s' log) :
    answerWith e callback request s = ⟨a.result, s', log⟩ := by
  cases h with
  | failed asked found => simp [answerWith, plan_of_asked asked, found]
  | answered asked found walk =>
    simp [answerWith, plan_of_asked asked, found, run_of_walk walk, remember, exchange, conclusion]

namespace Account

/-- The exchange that a run adds to the conversation; one without a plan adds nothing. -/
def turns (a : Account σ) : List Message :=
  match a.inquiry.found with
  | .ok (reply, _) => exchange a.request reply
  | .error _ => []

end Account

namespace Answered

variable {callback : Callback σ} {a : Account σ} {log : List Event}

theorem request_eq (h : Answered e request s callback a s' log) :
    a.request = request := by
  cases h <;> rfl

theorem session_eq (h : Answered e request s callback a s' log) :
    a.session = s := by
  cases h <;> rfl

/-- A run asks for its plan first. -/
theorem asked (h : Answered e request s callback a s' log) : ∃ t, Asked e request s a.inquiry t := by
  cases h with
  | failed asked found => exact ⟨_, asked⟩
  | answered asked found walk => exact ⟨_, asked⟩

theorem asked_eq (h : Answered e request s callback a s' log) :
    a.inquiry.asked = messagesFor e s.history request := by
  obtain ⟨t, asked⟩ := h.asked
  exact asked.asked_eq

/-- A run asks for one plan, before all that further requests ask for. -/
theorem planRequests_log (h : Answered e request s callback a s' log) :
    planRequests log = a.inquiry.sent :: planRequests (a.records.flatMap Record.nested) := by
  cases h with
  | failed asked found => simp [asked.planRequests_log]
  | answered asked found walk =>
    have nested := walk.planRequests_log
    rw [planRequests_append] at nested
    simp [asked.planRequests_log, nested, opening, Event.planning?]

end Answered

end Assistant

end Stepwise
