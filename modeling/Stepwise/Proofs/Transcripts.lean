import Mathlib.Data.List.Basic
import Stepwise.Chat.Transcript
import Stepwise.Proofs.ConversationHistory

/-!
Conversations as the completion provider takes them. The turns before a prompt, and the prompt, are the messages that
they were made from, with each side's messages gathered; there is only one way to gather them. A session always has a
prompt to ask for, and what was said before it goes back and forth between requests and responses.
-/

namespace Stepwise

/-- Whether a turn is a request. -/
def Turn.isRequest : Turn → Bool
  | .request _ => true
  | .response _ => false

namespace Transcript

/-- A request of at least one part, none of which the assistant said, or a response of one text, which it said. -/
def OneSided : Turn → Prop
  | .request parts => parts ≠ [] ∧ ∀ p ∈ parts, (partMessage p).role ≠ .assistant
  | .response text => turnMessages (.response text) = [⟨.assistant, text⟩]

/-- Turns that are not both requests. -/
def Apart (t t' : Turn) : Prop := t.isRequest = true → t'.isRequest = false

/-- Turns and a prompt as messages are gathered in them: nothing is lost or added, every turn has one side, and what
one side said is not divided. -/
structure Gathers (messages : List Message) (history : List Turn) (prompt : String) : Prop where
  whole : history.flatMap turnMessages ++ [⟨.user, prompt⟩] = messages
  oneSided : ∀ t ∈ history, OneSided t
  undivided : history.IsChain Apart

/-- Messages that do not end with one of the user. -/
def Promptless (messages : List Message) : Prop :=
  messages = [] ∨ ∃ m, messages.getLast? = some m ∧ m.role ≠ .user

/-- The fault of messages without a prompt. -/
def noPrompt : Fault := .general .value "the last message must be the user prompt"

variable {messages ms : List Message} {waiting parts : List Part} {history : List Turn} {prompt : String}

@[simp] theorem turns_system (text : String) :
    turns waiting (⟨.system, text⟩ :: ms) = turns (waiting ++ [.system text]) ms := rfl

@[simp] theorem turns_user (text : String) :
    turns waiting (⟨.user, text⟩ :: ms) = turns (waiting ++ [.user text]) ms := rfl

@[simp] theorem turns_assistant (text : String) :
    turns waiting (⟨.assistant, text⟩ :: ms) = flush waiting ++ .response text :: turns [] ms := rfl

theorem flush_of_ne_nil (some : waiting ≠ []) : flush waiting = [.request waiting] := by
  obtain ⟨p, ps, rfl⟩ := List.exists_cons_of_ne_nil some
  rfl

theorem role_partMessage (p : Part) : (partMessage p).role ≠ .assistant := by
  cases p <;> exact Role.noConfusion

/-- Parts that wait for a response say what they said before. -/
theorem messages_flush (waiting : List Part) :
    (flush waiting).flatMap turnMessages = waiting.map partMessage := by
  cases waiting with
  | nil => rfl
  | cons p ps => exact List.flatMap_singleton turnMessages (.request (p :: ps))

theorem messages_turns (waiting : List Part) (ms : List Message) :
    (turns waiting ms).flatMap turnMessages = waiting.map partMessage ++ ms := by
  induction ms generalizing waiting with
  | nil => rw [turns, messages_flush, List.append_nil]
  | cons m ms ih =>
    obtain ⟨role, text⟩ := m
    cases role with
    | system => simp [ih, partMessage]
    | user => simp [ih, partMessage]
    | assistant => simp [ih, messages_flush, turnMessages]

theorem oneSided_flush : ∀ t ∈ flush waiting, OneSided t := by
  cases waiting with
  | nil => simp [flush]
  | cons p ps =>
    intro t member
    obtain rfl := List.mem_singleton.mp member
    exact ⟨List.cons_ne_nil p ps, fun q _ => role_partMessage q⟩

theorem oneSided_turns (waiting : List Part) (ms : List Message) : ∀ t ∈ turns waiting ms, OneSided t := by
  induction ms generalizing waiting with
  | nil => exact oneSided_flush
  | cons m ms ih =>
    obtain ⟨role, text⟩ := m
    cases role with
    | system => exact ih _
    | user => exact ih _
    | assistant =>
      intro t member
      rw [turns_assistant, List.mem_append, List.mem_cons] at member
      rcases member with before | rfl | later
      · exact oneSided_flush t before
      · rfl
      · exact ih [] t later

/-- Each response ends a request, and the next one begins with no parts that wait. -/
theorem isChain_turns (waiting : List Part) (ms : List Message) : (turns waiting ms).IsChain Apart := by
  have ends (text : String) (t : Turn) : Apart (.response text) t := fun request => Bool.noConfusion request
  induction ms generalizing waiting with
  | nil =>
    cases waiting with
    | nil => exact .nil
    | cons p ps => exact .singleton _
  | cons m ms ih =>
    obtain ⟨role, text⟩ := m
    cases role with
    | system => exact ih _
    | user => exact ih _
    | assistant =>
      have after : (Turn.response text :: turns [] ms).IsChain Apart :=
        List.isChain_cons.mpr ⟨fun t _ => ends text t, ih []⟩
      rw [turns_assistant]
      cases waiting with
      | nil => exact after
      | cons p ps => exact after.cons_cons fun _ => rfl

theorem turns_map_append (waiting parts : List Part) (ms : List Message) :
    turns waiting (parts.map partMessage ++ ms) = turns (waiting ++ parts) ms := by
  induction parts generalizing waiting with
  | nil => rw [List.append_nil]; rfl
  | cons p parts ih =>
    cases p with
    | system text => simp [partMessage, ih]
    | user text => simp [partMessage, ih]

/-- Turns that have one side each and are not divided are gathered again as they were. -/
theorem turns_messages (oneSided : ∀ t ∈ history, OneSided t) (undivided : history.IsChain Apart) :
    turns [] (history.flatMap turnMessages) = history := by
  induction history with
  | nil => rfl
  | cons t history ih =>
    rw [List.forall_mem_cons] at oneSided
    obtain ⟨next, undivided⟩ := List.isChain_cons.mp undivided
    have later := ih oneSided.2 undivided
    rw [List.flatMap_cons]
    cases t with
    | response text => exact congrArg (Turn.response text :: ·) later
    | request parts =>
      rw [turnMessages, turns_map_append, List.nil_append]
      -- The parts wait until the response that comes next, or until the end.
      cases history with
      | nil => exact flush_of_ne_nil oneSided.1.1
      | cons t' history =>
        cases t' with
        | request parts' => exact Bool.noConfusion (next _ rfl rfl)
        | response text =>
          have response : turns parts (⟨.assistant, text⟩ :: history.flatMap turnMessages) =
              .request parts :: .response text :: turns [] (history.flatMap turnMessages) := by
            rw [turns_assistant, flush_of_ne_nil oneSided.1.1]
            rfl
          rw [List.flatMap_cons] at later ⊢
          exact response.trans (congrArg _ later)

theorem split_of_promptless (none : Promptless messages) : split messages = .error noPrompt := by
  unfold split
  rcases none with rfl | ⟨m, last, other⟩
  · rfl
  · simp only [last, if_neg other, noPrompt]

theorem split_concat (ms : List Message) (prompt : String) :
    split (ms ++ [⟨.user, prompt⟩]) = .ok (turns [] ms, prompt) := by
  simp [split]

theorem exists_prompt (asked : ¬ Promptless messages) : ∃ ms prompt, messages = ms ++ [⟨.user, prompt⟩] := by
  cases last : messages.getLast? with
  | none => exact absurd (.inl (List.getLast?_eq_none_iff.mp last)) asked
  | some m =>
    obtain ⟨ms, rfl⟩ := List.getLast?_eq_some_iff.mp last
    obtain ⟨role, prompt⟩ := m
    by_cases user : role = .user
    · subst user
      exact ⟨ms, prompt, rfl⟩
    · exact absurd (.inr ⟨_, last, user⟩) asked

/-- Messages are split into the only turns and prompt that gather them. -/
theorem split_eq_ok_iff : split messages = .ok (history, prompt) ↔ Gathers messages history prompt := by
  constructor
  · intro ok
    have asked : ¬ Promptless messages := by
      intro none
      rw [split_of_promptless none] at ok
      cases ok
    obtain ⟨ms, prompt', rfl⟩ := exists_prompt asked
    rw [split_concat] at ok
    cases ok
    refine ⟨?_, oneSided_turns [] ms, isChain_turns [] ms⟩
    rw [messages_turns]
    rfl
  · rintro ⟨rfl, oneSided, undivided⟩
    rw [split_concat, turns_messages oneSided undivided]

/-- Requests and responses back and forth, beginning with a request. -/
def Alternates : List Turn → Prop
  | [] => True
  | [.request _] => True
  | .request _ :: .response _ :: rest => Alternates rest
  | _ => False

/-- The turns of exchanges, the first request having parts that waited. -/
theorem turns_exchanges (q a : String) (pairs : List (String × String)) :
    turns waiting (Assistant.turnsOf ((q, a) :: pairs)) =
      .request (waiting ++ [.user q]) :: .response a :: turns [] (Assistant.turnsOf pairs) := by
  change turns waiting (⟨.user, q⟩ :: ⟨.assistant, a⟩ :: Assistant.turnsOf pairs) = _
  rw [turns_user, turns_assistant, flush_of_ne_nil (by simp)]
  rfl

theorem alternates_exchanges (waiting : List Part) (pairs : List (String × String)) :
    Alternates (turns waiting (Assistant.turnsOf pairs)) := by
  induction pairs generalizing waiting with
  | nil => cases waiting <;> trivial
  | cons pair pairs ih =>
    rw [turns_exchanges]
    exact ih []

/-- What is sent for a request after a history: the turns go back and forth, beginning with the system prompt, and
the prompt is that of the request. -/
def Sends {σ : Type} (e : Engine σ) (past : List Message) (request : String) : Prop :=
  ∃ parts rest, Alternates (.request (.system Prompt.system :: parts) :: rest) ∧
    split (Assistant.messagesFor e past request) =
      .ok (.request (.system Prompt.system :: parts) :: rest, Assistant.promptFor e request)

theorem sends_of_paired {σ : Type} (e : Engine σ) {past : List Message} (paired : Assistant.Paired past)
    (request : String) : Sends e past request := by
  obtain ⟨pairs, rfl⟩ := paired
  have sent : split (Assistant.messagesFor e (Assistant.turnsOf pairs) request) =
      .ok (turns [.system Prompt.system] (Assistant.turnsOf pairs), Assistant.promptFor e request) :=
    split_concat (⟨.system, Prompt.system⟩ :: Assistant.turnsOf pairs) _
  have alternates := alternates_exchanges [.system Prompt.system] pairs
  cases pairs with
  | nil => exact ⟨[], [], alternates, sent⟩
  | cons pair pairs =>
    rw [turns_exchanges] at sent alternates
    exact ⟨_, _, alternates, sent⟩

/-- Nothing is lost on the way to the completion provider. Messages are refused if and only if the last one is not the
user's, or there is none; otherwise they are split into turns and a prompt that gather them, and no others do.
Whatever was ordered before, what each run of a request asks for is accepted, its own request as well as those that it
hands over to, and what was said before is a dialogue that the system prompt opens. -/
theorem messages_gathered :
    (∀ messages,
      (Promptless messages ↔ split messages = .error noPrompt) ∧
      (¬ Promptless messages → ∃ history prompt, split messages = .ok (history, prompt)) ∧
      ∀ history prompt, split messages = .ok (history, prompt) ↔ Gathers messages history prompt) ∧
    ∀ (σ : Type) (e : Engine σ) (orders : List Assistant.Order) (world : σ) (request : String),
      Sends e (Assistant.sessionAfter e orders (.fresh world)).history request ∧
      ∃ chain result s' log,
        Assistant.Chain e e.settings.levels request (Assistant.sessionAfter e orders (.fresh world)) chain result
          s' log ∧
        Assistant.run e request (Assistant.sessionAfter e orders (.fresh world)) = ⟨result, s', log⟩ ∧
        ∀ a ∈ chain, a.inquiry.asked = Assistant.messagesFor e a.session.history a.request ∧
          Sends e a.session.history a.request := by
  refine ⟨fun messages => ⟨⟨split_of_promptless, fun refused => ?_⟩, fun asked => ?_, fun _ _ => split_eq_ok_iff⟩,
    fun σ e orders world request => ?_⟩
  · by_contra asked
    obtain ⟨ms, prompt, rfl⟩ := exists_prompt asked
    rw [split_concat] at refused
    cases refused
  · obtain ⟨ms, prompt, rfl⟩ := exists_prompt asked
    exact ⟨_, _, split_concat ms prompt⟩
  · have paired := Assistant.paired_sessionAfter e orders (s := .fresh world) Assistant.paired_nil
    obtain ⟨chain, result, s', log, h, hrun⟩ :=
      Assistant.run_chain e request (Assistant.sessionAfter e orders (.fresh world))
    refine ⟨sends_of_paired e paired request, chain, result, s', log, h, hrun, fun a member => ?_⟩
    obtain ⟨hhistory, m, t, log', answered⟩ := h.answered_of_mem member
    refine ⟨answered.asked_eq, sends_of_paired e ?_ a.request⟩
    rw [hhistory]
    exact paired

end Transcript

end Stepwise
