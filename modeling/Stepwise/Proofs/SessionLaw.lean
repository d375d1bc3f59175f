import Mathlib.Data.List.Forall2
import Stepwise.Program
import Stepwise.Proofs.Talks

/-!
The law of an interactive session. The lines before the first one that asks to leave are gone through in order:
a blank line passes, one line asks to forget the conversation, and each of the others is the request of one run.
A run that fails is reported and changes nothing for the lines after it. The program then ends well.
-/

namespace Stepwise

namespace Conversation

open Assistant

variable {σ : Type} {e : Engine σ} {s s' : Session σ}

/-- Whether a line asks to leave: one of two words in any case, with any blanks around it. -/
def leaves (line : String) : Bool := ["exit", "quit"].contains (Text.lowered (Text.trimmed line))

/-- The lines before the first one that asks to leave. -/
def said (lines : List String) : List String := lines.takeWhile fun line => !leaves line

/-- What a line comes to: nothing if it is blank, forgetting if it reads so, and otherwise a talk whose request
is the line without the blanks around it. -/
def Meets (line : String) : Doing σ → Prop
  | .passed => Text.trimmed line = ""
  | .forgot => Text.lowered (Text.trimmed line) = "clear"
  | .ran talk => Text.trimmed line ≠ "" ∧ Text.lowered (Text.trimmed line) ≠ "clear" ∧
      talk.request = Text.trimmed line

/-- What the terminal shows of a line that was typed. -/
def echo (line : String) : Event := .terminal (invitation ++ line ++ "\n")

/-- What the terminal shows at the end: the line that asks to leave, or an empty one if there are no more. -/
def parting (lines : List String) : Event := echo ((lines.find? leaves).getD "")

/-- What is shown of the lines that were said and of what came of them. -/
def shown (lines : List String) (doings : List (Doing σ)) : List Event :=
  (List.zipWith (fun line d => echo line :: d.log) lines doings).flatten

theorem lowered_empty : Text.lowered "" = "" := by decide

/-- Every line is meant in one of four ways, which its text tells. -/
theorem ofLine_cases (line : String) :
    (leaves line = true ∧ Utterance.ofLine line = .leave) ∨
    (leaves line = false ∧
      ((Text.trimmed line = "" ∧ Utterance.ofLine line = .nothing) ∨
      (Text.lowered (Text.trimmed line) = "clear" ∧ Utterance.ofLine line = .forget) ∨
      (Text.trimmed line ≠ "" ∧ Text.lowered (Text.trimmed line) ≠ "clear" ∧
        Utterance.ofLine line = .request (Text.trimmed line)))) := by
  unfold leaves Utterance.ofLine Utterance.leaveWords Utterance.forgetWord
  by_cases blank : Text.trimmed line = ""
  · refine .inr ⟨?_, .inl ⟨blank, ?_⟩⟩
    · rw [blank, lowered_empty]
      decide
    · rw [blank]
      rfl
  · have some_text : (Text.trimmed line).isEmpty = false := by
      simpa only [String.isEmpty_eq_false_iff] using blank
    simp only [some_text, Bool.false_eq_true, if_false]
    cases leaving : ["exit", "quit"].contains (Text.lowered (Text.trimmed line)) with
    | true => exact .inl ⟨rfl, if_pos rfl⟩
    | false =>
      refine .inr ⟨rfl, ?_⟩
      by_cases clear : Text.lowered (Text.trimmed line) = "clear"
      · exact .inr (.inl ⟨clear, by simp only [Bool.false_eq_true, if_false, clear, if_true]⟩)
      · exact .inr (.inr ⟨blank, clear, by simp only [Bool.false_eq_true, if_false, clear]⟩)

/-- Asking leads to a talk, whose failure is reported and nothing more. -/
theorem ask_of_holds {talk : Talk σ} (h : talk.Holds e) :
    ∃ good, ask e talk.request talk.session = ⟨.ok good, talk.left, (Doing.ran talk).log⟩ := by
  unfold ask
  rw [Act.bind_apply, Act.attempt_apply, h.run_eq]
  cases ended : talk.result with
  | ok ending =>
    refine ⟨true, ?_⟩
    have reported : talk.report = [] := by rw [Talk.report, ended]
    simp only [Outcome.andThen_ok, Act.pure_apply, Act.after_mk, Doing.log, reported]
  | error f =>
    refine ⟨false, ?_⟩
    have reported : talk.report = [.requestFailed f] := by rw [Talk.report, ended]
    simp only [Outcome.andThen_ok, Act.bind_apply, Act.say_apply, Act.pure_apply, Act.after_mk,
      List.append_nil, Doing.log, reported]

/-- Going through the lines: each one that is said has its doing, and the last of them leaves the session. -/
theorem exchange_eq (e : Engine σ) (lines : List String) (s : Session σ) :
    ∃ doings s', List.Forall₂ Meets (said lines) doings ∧ Doing.Steps e s doings s' ∧
      exchange e lines s = ⟨.ok (), s', shown (said lines) doings ++ [parting lines]⟩ := by
  -- by induction on the lines, for any session: each line may leave another one to the lines after it
  induction lines generalizing s with
  | nil => exact ⟨[], s, .nil, .nil, rfl⟩
  | cons line rest ih =>
    rw [exchange, Act.bind_apply, Act.say_apply, Outcome.andThen_ok]
    obtain ⟨leaving, meant⟩ | ⟨staying, meaning⟩ := ofLine_cases line
    · have none_said : said (line :: rest) = [] :=
        List.takeWhile_cons_of_neg (by simp only [leaving, Bool.not_true, Bool.false_eq_true, not_false_eq_true])
      have last : parting (line :: rest) = echo line := by
        unfold parting
        rw [List.find?_cons_of_pos leaving]
        rfl
      rw [none_said, last, meant]
      exact ⟨[], s, .nil, .nil, rfl⟩
    · have cons : said (line :: rest) = line :: said rest :=
        List.takeWhile_cons_of_pos (by simp only [staying, Bool.not_false])
      have last : parting (line :: rest) = parting rest := by
        unfold parting
        rw [List.find?_cons_of_neg (by simp only [staying, Bool.false_eq_true, not_false_eq_true])]
      rw [cons, last]
      obtain ⟨blank, meant⟩ | ⟨clear, meant⟩ | ⟨text, unclear, meant⟩ := meaning
      · obtain ⟨doings, s', meets, steps, later⟩ := ih s
        refine ⟨.passed :: doings, s', .cons blank meets, .cons .passed steps, ?_⟩
        rw [meant]
        simp only [later, Act.after_mk]
        rfl
      · obtain ⟨doings, s', meets, steps, later⟩ := ih { s with history := [] }
        refine ⟨.forgot :: doings, s', .cons clear meets, .cons .forgot steps, ?_⟩
        rw [meant]
        simp only [Assistant.forget, Act.bind_apply, Act.change_apply, Outcome.andThen_ok, Session.tell_apply,
          later, Act.after_mk]
        rfl
      · obtain ⟨talk, holds, hrequest, rfl⟩ := Talk.exists_holds e (Text.trimmed line) s
        obtain ⟨doings, s', meets, steps, later⟩ := ih talk.left
        obtain ⟨good, asked⟩ := ask_of_holds holds
        rw [hrequest] at asked
        refine ⟨.ran talk :: doings, s', .cons ⟨text, unclear, hrequest⟩ meets, .cons (.ran holds) steps, ?_⟩
        rw [meant]
        simp only [Act.bind_apply, asked, Outcome.andThen_ok, later, Act.after_mk]
        simp only [shown, List.zipWith_cons_cons, List.flatten_cons, echo, List.cons_append, List.nil_append,
          List.append_assoc]

theorem planRequests_shown {lines : List String} {doings : List (Doing σ)}
    (h : List.Forall₂ Meets lines doings) :
    planRequests (shown lines doings) = planRequests (doings.flatMap Doing.log) := by
  induction h with
  | nil => rfl
  | @cons line d lines doings _ _ ih =>
    have silent : (echo line).planning? = none := rfl
    have cons : shown (line :: lines) (d :: doings) = echo line :: (d.log ++ shown lines doings) := rfl
    rw [cons, planRequests_cons, silent, planRequests_append, ih, List.flatMap_cons, planRequests_append]
    rfl

/-- The line that opens an interactive session. -/
def opening : Event := .deed (.show .info greeting)

variable (e) in
/-- The law of an interactive session in which `lines` are typed after a request that may have been made at
once: `first` is what came of that request, `doings` is what came of the lines, and `log` is the whole log. -/
structure Held (request : Option String) (lines : List String) (first doings : List (Doing σ))
    (log : List Event) : Prop where
  /-- The request that was made at once is that of one run. -/
  atOnce : List.Forall₂ (fun text d => ∃ talk, d = .ran talk ∧ talk.request = text) request.toList first
  /-- So is each line that is said and neither blank nor the word for forgetting; one line, one run, in order. -/
  meets : List.Forall₂ Meets (said lines) doings
  /-- Each run is made by itself, in a session that remembers what was recorded since the conversation was last
  forgotten, and asks for its plan with just that. -/
  talks : ∀ pre talk post, first ++ doings = pre ++ .ran talk :: post →
    talk.Holds e ∧ talk.session.depth = 0 ∧ talk.session.history = Doing.remembered pre ∧
      talk.Asks e (Doing.remembered pre)
  /-- A run adds to the history what it records, which is nothing if it fails; that is reported. -/
  recorded : ∀ talk, .ran talk ∈ first ++ doings →
    talk.left.history = talk.session.history ++ talk.turns ∧
    ∀ f, talk.result = .error f → talk.turns = [] ∧ ∀ journal stamp,
      talk.report.map (Console.errors journal stamp) = [Console.line ("Request failed: " ++ f.message)]
  /-- Nobody else asks the provider for a plan. -/
  requests : planRequests log = (first ++ doings).flatMap Doing.sent
  /-- All is logged in order, each line before what came of it, up to the line that asked to leave. -/
  logged : ∃ before, planRequests before = [] ∧
    log = before ++ (first.flatMap Doing.log ++ opening :: (shown (said lines) doings ++ [parting lines]))

/-- A session that is held from a new conversation on is held by the law. -/
theorem Held.of_steps {request : Option String} {lines : List String} {first doings : List (Doing σ)}
    {before : List Event} (silent : planRequests before = [])
    (atOnce : List.Forall₂ (fun text d => ∃ talk, d = .ran talk ∧ talk.request = text) request.toList first)
    (meets : List.Forall₂ Meets (said lines) doings) (steps : Doing.Steps e s (first ++ doings) s')
    (new : s.history = []) (outermost : s.depth = 0) :
    Held e request lines first doings
      (before ++ (first.flatMap Doing.log ++ opening :: (shown (said lines) doings ++ [parting lines]))) where
  atOnce := atOnce
  meets := meets
  talks pre talk post h := by
    obtain ⟨holds, remembers, depth⟩ := (h ▸ steps).talk_of_split new
    exact ⟨holds, depth.trans outermost, remembers, remembers ▸ holds.asks⟩
  recorded talk member := by
    obtain ⟨pre, post, h⟩ := List.append_of_mem member
    obtain ⟨holds, -, -⟩ := (h ▸ steps).talk_of_split new
    refine ⟨holds.history_eq, fun f failed => ⟨holds.turns_of_error failed, fun journal stamp => ?_⟩⟩
    rw [Talk.report, failed]
    rfl
  requests := by
    have quiet : planRequests [opening] = [] := rfl
    have end_quiet : planRequests [parting lines] = [] := rfl
    rw [planRequests_append, silent, List.nil_append, planRequests_append, ← List.singleton_append,
      planRequests_append, quiet, List.nil_append, planRequests_append, end_quiet, List.append_nil,
      planRequests_shown meets, ← planRequests_append, ← List.flatMap_append, steps.planRequests_log]
  logged := ⟨before, silent, rfl⟩

/-- What precedes a session that is held does not matter to the law, if it asks for no plan. -/
theorem Held.after {request : Option String} {lines : List String}
    {first doings : List (Doing σ)} {log earlier : List Event} (h : Held e request lines first doings log)
    (silent : planRequests earlier = []) : Held e request lines first doings (earlier ++ log) where
  atOnce := h.atOnce
  meets := h.meets
  talks := h.talks
  recorded := h.recorded
  requests := by rw [planRequests_append, silent, List.nil_append, h.requests]
  logged := by
    obtain ⟨before, quiet, rfl⟩ := h.logged
    refine ⟨earlier ++ before, ?_, (List.append_assoc _ _ _).symm⟩
    rw [planRequests_append, silent, quiet]
    rfl

/-- Telling the plugins that all is ready changes nothing of a new conversation. -/
theorem start_fresh (e : Engine σ) (world : σ) :
    ∃ s log, Assistant.start e (.fresh world) = ⟨.ok (), s, log⟩ ∧ s.history = [] ∧ s.depth = 0 ∧
      planRequests log = [] := by
  obtain ⟨w, log, observed, -⟩ := Hooks.observe_spec .start e.participants world
  have told : Hooks.start e.participants world = ⟨.ok (), w, log⟩ := observed
  refine ⟨{ Session.fresh w with started := true }, log, ?_, rfl, rfl,
    planRequests_of_plugins (Hooks.entries_of_transform observed)⟩
  unfold Assistant.start
  simp only [Act.bind_apply, Act.world_apply, Outcome.andThen_ok, Session.fresh, Bool.false_eq_true, if_false,
    Act.change_apply, Session.onWorld_apply, told, Act.after_mk, List.nil_append]

theorem interact_eq (e : Engine σ) (lines : List String) (s : Session σ) :
    ∃ doings s', List.Forall₂ Meets (said lines) doings ∧ Doing.Steps e s doings s' ∧
      interact e lines s = ⟨.ok (), s', opening :: (shown (said lines) doings ++ [parting lines])⟩ := by
  obtain ⟨doings, s', meets, steps, later⟩ := exchange_eq e lines s
  refine ⟨doings, s', meets, steps, ?_⟩
  unfold interact
  rw [Act.bind_apply, Session.tell_apply, Outcome.andThen_ok, later]
  rfl

/-- An interactive session ends well, by the law. -/
theorem serve_held (e : Engine σ) (request : Option String) (interactive : Bool) (lines : List String)
    (world : σ) (talks : interactive = true ∨ request = none) :
    ∃ first doings s' log, serve e request interactive lines (.fresh world) = ⟨.ok 0, s', log⟩ ∧
      Held e request lines first doings log := by
  obtain ⟨s, before, started, new, outermost, silent⟩ := start_fresh e world
  unfold serve
  rw [Act.bind_apply, started, Outcome.andThen_ok]
  cases request with
  | none =>
    obtain ⟨doings, s', meets, steps, later⟩ := interact_eq e lines s
    refine ⟨[], doings, s', _, ?_, Held.of_steps silent .nil meets steps new outermost⟩
    simp only [Act.bind_apply, later, Outcome.andThen_ok, Act.pure_apply, Act.after_mk, List.append_nil,
      List.flatMap_nil, List.nil_append]
  | some text =>
    have stays : interactive = true := talks.resolve_right (fun no => by cases no)
    subst stays
    obtain ⟨talk, holds, rfl, rfl⟩ := Talk.exists_holds e text s
    obtain ⟨good, asked⟩ := ask_of_holds holds
    obtain ⟨doings, s', meets, steps, later⟩ := interact_eq e lines talk.left
    refine ⟨[.ran talk], doings, s', _, ?_, Held.of_steps silent (.cons ⟨talk, rfl, rfl⟩ .nil) meets
      (.cons (.ran holds) steps) new outermost⟩
    simp only [Act.bind_apply, asked, Outcome.andThen_ok, later, Act.pure_apply, Act.after_mk, List.append_nil,
      List.flatMap_cons, List.flatMap_nil, if_true]

end Conversation

namespace Program

open Assistant Conversation

variable {σ : Type} (around : Surroundings σ)

/-- What the program does before it serves: it reads the settings and opens the journal. -/
def prepare (stamp : Journal.Stamp) (i : Invocation) : Act Event (Session σ) (Settings × Journal) := do
  let s := override i (← settings around)
  return (s, ← openJournal around stamp s)

theorem run_eq (stamp : Journal.Stamp) (i : Invocation) :
    run around stamp i = (do
      match ← (prepare around stamp i).attempt with
      | .error f => pure ⟨.error f, none⟩
      | .ok (s, j) =>
        let code ← (journaled around j stamp (serve around i s)).attempt
        pure ⟨code, some j⟩) := rfl

/-- Work of the program that changes nothing of a conversation, and asks for no plan. -/
def Aside {α : Type} (m : Act Event (Session σ) α) : Prop :=
  ∀ s, (∃ w, (m s).world = { s with world := w }) ∧ planRequests (m s).log = []

theorem aside_bind {α β : Type} {m : Act Event (Session σ) α} {k : α → Act Event (Session σ) β}
    (first : Aside m) (later : ∀ a, Aside (k a)) : Aside (m >>= k) := by
  intro s
  obtain ⟨⟨w, hw⟩, silent⟩ := first s
  rw [Act.bind_apply]
  rcases outcome : m s with ⟨f | a, s', log⟩
  · rw [outcome] at hw silent
    exact ⟨⟨w, hw⟩, silent⟩
  · rw [outcome] at hw silent
    obtain ⟨⟨w', hw'⟩, silent'⟩ := later a s'
    refine ⟨⟨w', ?_⟩, ?_⟩
    · rw [Outcome.andThen_ok]
      exact hw'.trans (by rw [show s' = { s with world := w } from hw])
    · rw [Outcome.andThen_ok]
      exact (planRequests_append _ _).trans (by rw [show planRequests log = [] from silent, silent']; rfl)

theorem aside_pure {α : Type} (a : α) : Aside (pure a : Act Event (Session σ) α) :=
  fun s => ⟨⟨s.world, rfl⟩, rfl⟩

theorem aside_world : Aside (Act.world : Act Event (Session σ) (Session σ)) := fun s => ⟨⟨s.world, rfl⟩, rfl⟩

theorem aside_ofExcept {α : Type} (r : Except Fault α) : Aside (Act.ofExcept r : Act Event (Session σ) α) :=
  fun s => ⟨⟨s.world, rfl⟩, rfl⟩

theorem aside_onFiles {α : Type} (m : Files.FileAct α) : Aside (onFiles around m) :=
  fun _ => ⟨⟨_, rfl⟩, planRequests_deeds _⟩

theorem aside_say {d : Deed} : Aside (Act.say (.deed d) : Act Event (Session σ) Unit) :=
  fun s => ⟨⟨s.world, rfl⟩, rfl⟩

theorem aside_prepare (stamp : Journal.Stamp) (i : Invocation) : Aside (prepare around stamp i) := by
  have settings_aside : Aside (settings around) := aside_bind aside_world fun s => aside_ofExcept _
  have journal_aside (s : Settings) : Aside (openJournal around stamp s) :=
    aside_bind (aside_onFiles around _) fun j => aside_bind (aside_onFiles around _) fun _ =>
      aside_bind aside_say fun _ => aside_pure j
  exact aside_bind settings_aside fun s => aside_bind (journal_aside _) fun j => aside_pure _

theorem forM_say_apply (deeds : List Deed) (s : Session σ) :
    (forM deeds fun d => Act.say (.deed d) : Act Event (Session σ) PUnit) s =
      ⟨.ok (), s, deeds.map .deed⟩ := by
  induction deeds with
  | nil => rfl
  | cons d deeds ih =>
    rw [List.forM_cons, Act.bind_apply, Act.say_apply, Outcome.andThen_ok, ih]
    rfl

/-- Putting the engine together always comes to an end, and only tells of itself. -/
theorem engine_eq (s : Settings) (t : Session σ) :
    ∃ (e : Engine σ) (deeds : List Deed), engine around s t = ⟨.ok e, t, deeds.map .deed⟩ := by
  rcases assembled : Assembly.assemble s around.site around.host around.library
    (around.host.files t.world) with ⟨e, events⟩
  refine ⟨Code.equip e codeDepth, events.flatMap LoadEvent.deeds, ?_⟩
  unfold engine
  rw [Act.bind_apply, Act.world_apply, Outcome.andThen_ok, assembled]
  simp only [Act.bind_apply, List.forM_eq_forM, forM_say_apply, Outcome.andThen_ok, Act.pure_apply,
    Act.after_mk, List.append_nil, List.nil_append]

variable {i : Invocation}

/-- An engine is put together, and then it serves the session. -/
theorem serve_held (settings : Settings) (world : σ) (answers : i.listCapabilities = false)
    (interactive : i.interactive = true ∨ i.request? = none) :
    ∃ e first doings s' deeds log,
      engine around settings (.fresh world) = ⟨.ok e, .fresh world, deeds⟩ ∧
      serve around i settings (.fresh world) = ⟨.ok 0, s', log⟩ ∧
      Held e i.request? around.lines first doings log := by
  obtain ⟨e, deeds, built⟩ := engine_eq around settings (.fresh world)
  obtain ⟨first, doings, s', log, served, held⟩ :=
    Conversation.serve_held e i.request? i.interactive around.lines world interactive
  refine ⟨e, first, doings, s', deeds.map .deed, deeds.map .deed ++ log, built, ?_,
    held.after (planRequests_deeds deeds)⟩
  unfold serve
  rw [Act.bind_apply, built, Outcome.andThen_ok, answers]
  simp only [Bool.false_eq_true, if_false, served, Act.after_mk]

/-- Keeping the journal changes neither the result of what is served nor its log. -/
theorem journaled_eq {α : Type} {m : Act Event (Session σ) α} {s s' : Session σ} {r : Except Fault α}
    {log : List Event} (j : Journal) (stamp : Journal.Stamp) (h : m s = ⟨r, s', log⟩) :
    ∃ s'', journaled around j stamp m s = ⟨r, s'', log⟩ := by
  refine ⟨(journaled around j stamp m s).world, ?_⟩
  unfold journaled
  rw [h]

/-- A user who says hello, asks to forget that, and leaves. The provider gives one answer to all. -/
def visit : Surroundings FileTree where
  site := ⟨⟨"/", []⟩, ⟨"/", []⟩, [], "", []⟩
  library := ⟨[], []⟩
  host :=
    { complete := fun _ => pure "hello"
      command := fun _ text => pure ⟨true, text, some 0, "", "", none⟩
      execute := fun _ _ => pure .null
      files := id
      putFiles := fun t _ => t }
  lines := ["hi", "Clear", " EXIT ", "more"]

/-- The program as it is called without arguments. -/
def bare : Invocation := ⟨[], none, false, none, false, false, false⟩

/-- When the journal of a run stands in its conclusion. -/
def keeps (r : Except Fault Conclusion) : Bool := (r.toOption.bind Conclusion.journal).isSome

/-- One plan is asked for during the visit, for the only line that is a request. -/
example : (planRequests (run visit ⟨"", "", 0, ""⟩ bare (.fresh ⟨[]⟩)).log).length = 1 := by decide +kernel

end Program

end Stepwise
