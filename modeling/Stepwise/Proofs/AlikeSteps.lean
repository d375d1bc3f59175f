import Stepwise.Proofs.CallExtent
import Stepwise.Proofs.EngineAssembly
import Stepwise.Proofs.WrittenCalls
import Stepwise.Rehearsal.Stage

/-!
Steps of different kinds that come to the same. A single line that begins like a call and is one does what the call
says, whatever kind of step it is the content of; and a command, or a block of code, does as the content of a step
what it does as the argument of the built-in capability for it, which only shows lines of its own around it. Steps
are compared where they are carried out: in the same session, and at the same place of a plan.
-/

namespace Stepwise

/-- The kinds of steps whose content may be a call. -/
def StepKind.mayCall : StepKind → Bool
  | .call | .command | .code => true
  | .answer | .recurse => false

namespace Handler

variable {σ : Type}

/-- Whether a handler is itself the capability that runs commands or code. -/
def isRunner : Handler σ → Bool
  | .builtin .executeCommand | .builtin .executeCode => true
  | _ => false

end Handler

namespace Engine

variable {σ : Type}

/-- The engine with another runner of commands and another runner of code. -/
def withRunners (e : Engine σ) (command : Double → String → Act Deed σ CommandResult)
    (run : Outputs → String → Act Deed σ Value) : Engine σ :=
  { e with host := { e.host with command := command, execute := run } }

/-- No other capability reaches the runners. -/
theorem invoke_withRunners (e : Engine σ) (command : Double → String → Act Deed σ CommandResult)
    (run : Outputs → String → Act Deed σ Value) {entry : Entry σ} (other : entry.handler.isRunner = false)
    (outputs : Outputs) (args : List Value) :
    (e.withRunners command run).invoke outputs entry args = e.invoke outputs entry args := by
  have called : (e.withRunners command run).callHandler outputs entry.base entry.handler args =
      e.callHandler outputs entry.base entry.handler args := by
    cases handler : entry.handler with
    | value v => rfl
    | method deferred f => rfl
    | teller tell => rfl
    | builtin b =>
      rw [handler] at other
      cases b <;> first | rfl | cases other
  simp only [invoke, called]

end Engine

namespace Dispatch

variable {σ : Type} {e : Engine σ} {callback callback' : Option (Callback σ)} {plan plan' : List Step}

section

variable {index : ℕ} {planned planned' : Step} {s t s' t' : Session σ} {r r' : Record σ}

/-- What a step leaves behind that came to a result: its output, or the line that reports its failure. -/
def Leaves (r : Record σ) (s' : Session σ) : Except Fault Value → Prop
  | .ok v => r.fate = .completed v ∧ s'.outputs = r.ready.outputs.append v
  | .error f => r.fate = .failed f ∧ s'.outputs = r.ready.outputs ∧ r.after = [.stepFailed r.index f]

theorem Begun.leaves (h : Begun e callback plan index planned s r s') (kind : r.step.kind ≠ .recurse) :
    Leaves r s' (execute e r.ready.outputs r.step.kind r.step.content r.ready.world).result := by
  cases h with
  | completed prepared other executed observed => simp [Leaves, readied, executed]
  | failed prepared other executed => simp [Leaves, readied, executed]
  | unhandled prepared other absent => exact absurd other kind
  | refused prepared other present called => exact absurd other kind
  | handedOver prepared other present called => exact absurd other kind

/-- Two steps that come to the same: the same becomes of them, they leave the same outputs, and the same line reports
their failure. -/
structure Alike (r r' : Record σ) (s' t' : Session σ) : Prop where
  fate : r.fate = r'.fate
  outputs : s'.outputs = t'.outputs
  reported : ∀ f, r.fate = .failed f → r.after = [.stepFailed r.index f] ∧ r'.after = [.stepFailed r.index f]

/-- Two steps are alike if they come to the same result where they are carried out. -/
theorem Begun.alike (h : Begun e callback plan index planned s r s')
    (h' : Begun e callback' plan' index planned' t r' t') (here : r.ready = r'.ready)
    (kind : r.step.kind ≠ .recurse) (kind' : r'.step.kind ≠ .recurse)
    (same : (execute e r.ready.outputs r.step.kind r.step.content r.ready.world).result =
      (execute e r.ready.outputs r'.step.kind r'.step.content r.ready.world).result) : Alike r r' s' t' := by
  have left := h.leaves kind
  have left' := h'.leaves kind'
  have position : r.index = r'.index := h.index_eq.trans h'.index_eq.symm
  rw [same] at left
  rw [← here] at left'
  cases result : (execute e r.ready.outputs r'.step.kind r'.step.content r.ready.world).result with
  | ok v =>
    rw [result] at left left'
    obtain ⟨fate, outputs⟩ := left
    obtain ⟨fate', outputs'⟩ := left'
    rw [← here] at outputs'
    exact ⟨fate.trans fate'.symm, outputs.trans outputs'.symm, fun f failed => by rw [fate] at failed; cases failed⟩
  | error g =>
    rw [result] at left left'
    obtain ⟨fate, outputs, after⟩ := left
    obtain ⟨fate', outputs', after'⟩ := left'
    rw [← here] at outputs'
    refine ⟨fate.trans fate'.symm, outputs.trans outputs'.symm, fun f failed => ?_⟩
    obtain rfl : g = f := by rw [fate] at failed; cases failed; rfl
    exact ⟨after, position ▸ after'⟩

end

section

variable {content : String} {c : Call}

/-- A step of any kind that may be a call carries out the call that its content is. -/
theorem execute_of_begins (begins : BeginsLikeCall e content) (parsed : Call.parse e.catalogue.root content = .ok c)
    {kind : StepKind} (calls : kind.mayCall = true) (outputs : Outputs) :
    execute e outputs kind content = e.perform outputs c := by
  obtain ⟨command, code⟩ := execute_eq_perform begins parsed outputs
  cases kind with
  | call => simp [execute, parsed]
  | command => exact command
  | code => exact code
  | answer => cases calls
  | recurse => cases calls

variable (e content c) in
/-- What a single line comes to that is a call, whatever kind of step it is the content of. -/
structure OneMeaning : Prop where
  /-- The handler of the entry that the call names is called with the written arguments, references being outputs of
  the run; or there is no such entry, and the step fails with that. Nothing else is done. -/
  executed :
    (∃ entry, e.catalogue.resolve c.function (some c.space) = some entry ∧
      ∀ kind : StepKind, kind.mayCall = true → ∀ outputs, execute e outputs kind content = do
        Act.say (invoking entry c.args.length)
        e.invoke outputs entry (c.args.map (Argument.valueIn outputs.items))) ∨
    (e.catalogue.resolve c.function (some c.space) = none ∧
      ∀ kind : StepKind, kind.mayCall = true → ∀ outputs,
        execute e outputs kind content = Act.fail (.unknownCapability c.space c.function))
  /-- At every point of every run the step comes to what the call does with the outputs so far, and leaves its output
  or its failure. -/
  begun : ∀ callback plan index planned s r s', Begun e callback plan index planned s r s' →
    r.step.kind.mayCall = true → r.step.content = content →
      CarriedOut e plan r (e.perform r.ready.outputs c r.ready.world) ∧
        Leaves r s' (e.perform r.ready.outputs c r.ready.world).result
  ran : ∀ callback, KeepsOutputs callback → ∀ plan s,
    ∃ records closing ending s', Lawful e callback plan s records closing ending s' ∧
      ∀ k (hk : k < records.length), records[k].step.kind.mayCall = true → records[k].step.content = content →
        CarriedOut e plan records[k] (e.perform ⟨outputsOf records k⟩ c records[k].ready.world)
  /-- Two such steps of whatever kinds come to the same, if they are carried out at the same place and in the same
  session. -/
  alike : ∀ callback callback' plan plan' index planned planned' s t r r' s' t',
    Begun e callback plan index planned s r s' → Begun e callback' plan' index planned' t r' t' →
      r.ready = r'.ready → r.step.kind.mayCall = true → r'.step.kind.mayCall = true →
        r.step.content = content → r'.step.content = content → Alike r r' s' t'
  /-- The step does not reach the runners of commands and code itself: with any others in their place it does the
  same, provided that the handler does. -/
  unreached : ∀ command run, ∀ kind : StepKind, kind.mayCall = true → ∀ outputs w,
    (∀ entry, e.catalogue.resolve c.function (some c.space) = some entry →
      (e.withRunners command run).invoke outputs entry (c.args.map (Argument.valueIn outputs.items)) w =
        e.invoke outputs entry (c.args.map (Argument.valueIn outputs.items)) w) →
      execute (e.withRunners command run) outputs kind content w = execute e outputs kind content w
  /-- And so it does the same with every handler, apart from the two capabilities that run commands and code. -/
  untouched : ∀ command run,
    (∀ entry, e.catalogue.resolve c.function (some c.space) = some entry → entry.handler.isRunner = false) →
      ∀ kind : StepKind, kind.mayCall = true → ∀ outputs,
        execute (e.withRunners command run) outputs kind content = execute e outputs kind content

/-- A call does what its entry does with the values of the arguments, or fails if there is no entry. -/
theorem perform_cases (e : Engine σ) (c : Call) :
    (∃ entry, e.catalogue.resolve c.function (some c.space) = some entry ∧ ∀ outputs, e.perform outputs c = do
      Act.say (invoking entry c.args.length)
      e.invoke outputs entry (c.args.map (Argument.valueIn outputs.items))) ∨
    (e.catalogue.resolve c.function (some c.space) = none ∧
      ∀ outputs, e.perform outputs c = Act.fail (.unknownCapability c.space c.function)) := by
  cases found : e.catalogue.resolve c.function (some c.space) with
  | none => exact .inr ⟨rfl, fun outputs => by rw [Engine.perform, found]⟩
  | some entry =>
    refine .inl ⟨entry, rfl, fun outputs => ?_⟩
    rw [Engine.perform, found, Catalogue.resolveArguments_eq]
    rfl

/-- What a call does depends on the runners only as far as the handler does that it names. -/
theorem perform_withRunners (e : Engine σ) (c : Call) (command : Double → String → Act Deed σ CommandResult)
    (run : Outputs → String → Act Deed σ Value) (outputs : Outputs) (w : σ)
    (same : ∀ entry, e.catalogue.resolve c.function (some c.space) = some entry →
      (e.withRunners command run).invoke outputs entry (c.args.map (Argument.valueIn outputs.items)) w =
        e.invoke outputs entry (c.args.map (Argument.valueIn outputs.items)) w) :
    (e.withRunners command run).perform outputs c w = e.perform outputs c w := by
  rcases perform_cases e c with ⟨entry, found, performed⟩ | ⟨absent, failed⟩
  · rcases perform_cases (e.withRunners command run) c with ⟨entry', found', performed'⟩ | ⟨absent', -⟩
    · -- The catalogue is the same, so the same entry is found in it.
      obtain rfl : entry = entry' := Option.some.inj (found.symm.trans found')
      rw [performed, performed']
      exact congrArg (Act.after [invoking entry c.args.length]) (same entry found)
    · cases found.symm.trans absent'
  · rcases perform_cases (e.withRunners command run) c with ⟨entry', found', -⟩ | ⟨-, failed'⟩
    · cases absent.symm.trans found'
    · rw [failed, failed']

theorem ne_recurse_of_mayCall {kind : StepKind} (calls : kind.mayCall = true) : kind ≠ .recurse := by
  rintro rfl
  cases calls

/-- A single line that begins like a call and is one means the same in every kind of step that is executed. -/
theorem same_call_in_every_kind (begins : BeginsLikeCall e content)
    (parsed : Call.parse e.catalogue.root content = .ok c) : OneMeaning e content c := by
  have execute_eq : ∀ {kind : StepKind}, kind.mayCall = true → ∀ outputs,
      execute e outputs kind content = e.perform outputs c :=
    fun calls outputs => execute_of_begins begins parsed calls outputs
  -- The catalogue decides what is a call, and other runners leave it as it is.
  have execute_eq' : ∀ command run, ∀ {kind : StepKind}, kind.mayCall = true → ∀ outputs,
      execute (e.withRunners command run) outputs kind content = (e.withRunners command run).perform outputs c :=
    fun command run _ calls outputs => execute_of_begins (e := e.withRunners command run) begins parsed calls outputs
  refine ⟨?_, ?_, ?_, ?_, ?_, ?_⟩
  · rcases perform_cases e c with ⟨entry, found, performed⟩ | ⟨absent, failed⟩
    · exact .inl ⟨entry, found, fun kind calls outputs => (execute_eq calls outputs).trans (performed outputs)⟩
    · exact .inr ⟨absent, fun kind calls outputs => (execute_eq calls outputs).trans (failed outputs)⟩
  · rintro callback plan index planned s r s' begun calls rfl
    have other := ne_recurse_of_mayCall calls
    rw [← execute_eq calls]
    exact ⟨begun.carriedOut other, begun.leaves other⟩
  · intro callback keeps plan s
    obtain ⟨records, closing, ending, s', lawful, -⟩ := run_lawful (e := e) keeps plan s
    refine ⟨records, closing, ending, s', lawful, fun k hk calls same => ?_⟩
    obtain ⟨i, planned, t, t', begun⟩ := lawful.walk.begun_of_mem (List.getElem_mem hk)
    have carried := begun.carriedOut (ne_recurse_of_mayCall calls)
    rw [same, lawful.ready_eq k hk, execute_eq calls] at carried
    exact carried
  · intro callback callback' plan plan' index planned planned' s t r r' s' t' begun begun' here calls calls' text text'
    refine begun.alike begun' here (ne_recurse_of_mayCall calls) (ne_recurse_of_mayCall calls') ?_
    rw [text, text', execute_eq calls, execute_eq calls']
  · intro command run kind calls outputs w same
    rw [execute_eq calls, execute_eq' command run calls]
    exact perform_withRunners e c command run outputs w same
  · intro command run other kind calls outputs
    rw [execute_eq calls, execute_eq' command run calls]
    funext w
    refine perform_withRunners e c command run outputs w fun entry found => ?_
    rw [e.invoke_withRunners command run (other entry found)]

end

/-- A call with blanks around it and another text behind it. -/
def strayCall : String := " base_function.list_0(\"a, b\", outputList[0]) ; ls\t"

theorem same_call_in_every_kind_stray :
    BeginsLikeCall listingEngine strayCall ∧
      Call.parse listingEngine.catalogue.root strayCall =
        .ok ⟨defaultSpace, "list_0", [.literal "a, b", .reference 0]⟩ ∧
      OneMeaning listingEngine strayCall ⟨defaultSpace, "list_0", [.literal "a, b", .reference 0]⟩ ∧
      (run listingEngine none
        [.answer "x", ⟨.call, strayCall, ""⟩, ⟨.command, strayCall, ""⟩, ⟨.code, strayCall, ""⟩] (.fresh ())).result =
          .ok ⟨.done, 4, .text "x" :: List.replicate 3 (.list [.text "a, b", .text "x"])⟩ := by
  have begins : BeginsLikeCall listingEngine strayCall := ⟨by decide, by decide⟩
  have parsed : Call.parse listingEngine.catalogue.root strayCall =
      .ok ⟨defaultSpace, "list_0", [.literal "a, b", .reference 0]⟩ := by decide
  exact ⟨begins, parsed, same_call_in_every_kind begins parsed, by decide +kernel⟩

/-- An action with lines in front of it, and others behind it if it does not fail. -/
def framed (before after : List Deed) (m : Act Deed σ Value) : Act Deed σ Value := do
  before.forM Act.say
  let v ← m
  after.forM Act.say
  pure v

/-- The lines around an action are all that is added. -/
theorem framed_apply (before after : List Deed) (m : Act Deed σ Value) (w : σ) :
    framed before after m w =
      ⟨(m w).result, (m w).world, before ++ ((m w).log ++ if (m w).result.isOk then after else [])⟩ := by
  have front : (before.forM Act.say : Act Deed σ Unit) w = ⟨.ok (), w, before⟩ := Catalogue.forM_say before w
  rw [framed, Act.bind_of_ok front]
  rcases done : m w with ⟨f | v, w', log⟩
  · rw [Act.bind_of_error done]
    simp [Act.after, Except.isOk, Except.toBool]
  · have back : (after.forM Act.say : Act Deed σ Unit) w' = ⟨.ok (), w', after⟩ := Catalogue.forM_say after w'
    rw [Act.bind_of_ok done, Act.bind_of_ok back]
    simp [Act.after, Except.isOk, Except.toBool, pure, Act.pure]

theorem framed_framed (before before' after after' : List Deed) (m : Act Deed σ Value) :
    framed before after (framed before' after' m) = framed (before ++ before') (after' ++ after) m := by
  funext w
  simp only [framed_apply, List.append_assoc]
  cases (m w).result <;> simp [Except.isOk, Except.toBool]

/-- Whatever it comes to, the result names the command that was run. -/
def NamesCommand (text : String) (m : Act Deed σ CommandResult) : Prop :=
  ∀ w r, (m w).result = .ok r → r.command = text

/-- An engine as it is wired: its catalogue begins with the built-in extension, whatever was taken in after it, and
the results of its runner name the commands that it was given. -/
structure Wired (e : Engine σ) : Prop where
  catalogue : ∃ exts, e.catalogue = .ofExtensions defaultSpace (Toolbox.extension :: exts)
  runner : ∀ limit text, NamesCommand text (e.host.command limit text)

/-- Every engine that is put together from lists of references is wired. -/
theorem wired_assembleFrom (load load' : String → Except Fault (Offer σ)) (settings : Settings) (site : Site)
    {host : Host σ} (runner : ∀ limit text, NamesCommand text (host.command limit text)) :
    Wired (Assembly.assembleFrom load load' settings site host).1 :=
  ⟨⟨_, (Assembly.assembled load load' settings site host).catalogue⟩, runner⟩

section

variable {α : Type} {text : String}

theorem namesCommand_bind {m : Act Deed σ α} {f : α → Act Deed σ CommandResult}
    (names : ∀ a, NamesCommand text (f a)) : NamesCommand text (m >>= f) := by
  intro w r ok
  rcases done : m w with ⟨f' | a, w', log⟩
  · rw [Act.bind_of_error done] at ok
    cases ok
  · rw [Act.bind_of_ok done] at ok
    exact names a w' r ok

theorem namesCommand_zoom {τ : Type} {get : σ → τ} {put : τ → σ → σ} {m : Act Deed τ CommandResult}
    (names : NamesCommand text m) : NamesCommand text (Act.zoom get put m) :=
  fun w r ok => names (get w) r ok

theorem namesCommand_pure {r : CommandResult} (named : r.command = text) :
    NamesCommand text (pure r : Act Deed σ CommandResult) := by
  intro w r' ok
  cases ok
  exact named

theorem namesCommand_problem (text : String) (code : Option Int) (s : String) :
    NamesCommand text (Shell.problem text code s) :=
  namesCommand_bind fun _ => namesCommand_pure rfl

/-- The shell names the command that it ran, or could not run, or had to give up. -/
theorem namesCommand_execute (site : Site) (directory : String) (patience : Patience) (text : String) :
    NamesCommand text (Shell.execute site directory patience text) := by
  refine namesCommand_bind fun t => ?_
  split
  · refine namesCommand_bind fun _ => ?_
    split
    · rintro w r ⟨⟩
    · split
      · exact namesCommand_problem _ _ _
      · refine namesCommand_bind fun _ => namesCommand_bind fun _ => ?_
        unfold Shell.conclude
        split
        · exact namesCommand_problem _ _ _
        · exact namesCommand_bind fun _ => namesCommand_pure rfl
  · exact namesCommand_problem _ _ _

/-- An engine whose commands are carried out in a shell on its files is wired. -/
theorem wired_live (load load' : String → Except Fault (Offer Rehearsal.Stage)) (settings : Settings) (site : Site) :
    Wired (Assembly.assembleFrom load load' settings site (Rehearsal.Stage.liveHost site)).1 := by
  refine wired_assembleFrom load load' settings site fun limit text => ?_
  simp only [Rehearsal.Stage.liveHost]
  exact namesCommand_zoom (namesCommand_execute site "" (.ofSeconds limit) text)

end

/-- The text of a call of a built-in function with a text. -/
def callOf (name text : String) : String := "base_function." ++ name ++ "_0(@@ai-arg@@\"" ++ text ++ "\")"

/-- The note that a built-in function is about to be called with one argument. -/
def invokingTool (name : String) : Deed :=
  .diagnostic .debug .dispatcher ("Invoking " ++ name ++ "_0 with 1 args")

/-- The entry of a built-in function. -/
def entryOf (t : Toolbox.Tool) : Entry σ :=
  .ofDescriptor (.function t.name t.params t.description) 0 (.builtin t.builtin)

/-- A text that a call in tagged notation gives to its handler as it stands. -/
structure Passable (c : String) : Prop where
  unmarked : ¬ Call.marker.toList <:+: c.toList
  text : ∀ digits, ¬ Call.HasReferenceForm digits c.toList

theorem Passable.plain {c : String} (h : Passable c) : (Argument.literal c).Plain :=
  ⟨Call.isTagged_eq_false_iff.mpr h.unmarked, Call.referenceDigits?_eq_none_iff.mpr h.text⟩

theorem callText_entryOf (t : Toolbox.Tool) (text : String) :
    callText defaultSpace (entryOf t : Entry σ) [.literal text] = callOf t.name text := by
  have number : toString (0 : Int) = "0" := by decide
  have written : callOf t.name text = "base_function." ++ t.name ++ "_0(@@ai-arg@@\"" ++ text ++ "\")" := rfl
  rw [← String.toList_inj, written]
  simp [callText, Call.render, Call.tagged, Text.join, entryOf, Entry.ofDescriptor, Entry.name,
    Descriptor.function, defaultSpace, Call.marker, number]

theorem declaredName_of_mem {t : Toolbox.Tool} (member : t ∈ Toolbox.tools) : DeclaredName t.name := by
  have each : Toolbox.tools.all (fun t => !t.name.toList.contains '(' && !t.name.toList.contains '.' &&
      t.name.toList.head?.all (!Text.isBlank ·)) = true := by decide +kernel
  have named := List.all_eq_true.mp each t member
  simp only [Bool.and_eq_true, Bool.not_eq_true', List.contains_eq_mem, decide_eq_false_iff_not] at named
  obtain ⟨⟨opening, dot⟩, start⟩ := named
  refine ⟨opening, dot, fun c first => ?_⟩
  rw [Option.mem_def.mp first] at start
  simpa using start

/-- The dispatcher's note before it calls a built-in function with one argument. -/
theorem invoking_entryOf (t : Toolbox.Tool) : invoking (entryOf t : Entry σ) 1 = invokingTool t.name := by
  have number : toString (0 : Int) = "0" := by decide
  have one : Nat.repr 1 = "1" := by decide
  simp [one, number, String.append_assoc, invoking, invokingTool, entryOf, Entry.ofDescriptor, Entry.name,
    Descriptor.function]

/-- A wired engine has the entry of every built-in function, whatever was taken in after the built-in extension. -/
theorem Wired.holds (wired : Wired e) :
    (∃ taken, e.catalogue.Holds taken) ∧ e.catalogue.root = defaultSpace ∧
      ∀ t ∈ Toolbox.tools, entryOf t ∈ e.catalogue.entries := by
  obtain ⟨exts, catalogue⟩ := wired.catalogue
  have start : Toolbox.catalogue.Holds [(Toolbox.extension : Extension σ)] :=
    ((Catalogue.holds_empty defaultSpace).register Toolbox.register_extension).2.2
  have grown : e.catalogue = (Catalogue.registerAll Toolbox.catalogue exts).1 := by
    rw [catalogue, Catalogue.ofExtensions, Catalogue.registerAll, Toolbox.register_extension]
  have holds := (start.registered exts).holds
  have later := Catalogue.grown_registerAll (Toolbox.catalogue (σ := σ)) exts
  rw [← grown] at holds later
  exact ⟨⟨_, holds⟩, later.root, fun t member =>
    later.entries.subset (List.mem_append_left _ (List.mem_map_of_mem member))⟩

/-- A call of a built-in function with a text calls it with this text. -/
theorem Wired.execute_callOf (wired : Wired e) {t : Toolbox.Tool} (member : t ∈ Toolbox.tools) {c : String}
    (passable : Passable c) (outputs : Outputs) :
    execute e outputs .call (callOf t.name c) =
      framed [invokingTool t.name] [] (Toolbox.call e outputs t.builtin [.text c]) := by
  obtain ⟨⟨taken, holds⟩, root, there⟩ := wired.holds
  have space : Call.SpaceName e.catalogue.root := by
    rw [root]
    exact ⟨by decide, by decide, by decide, by decide⟩
  have plain : ∀ a ∈ [Argument.literal c], a.Plain := by
    rintro a (_ | ⟨_, ⟨⟩⟩)
    exact passable.plain
  have executed := execute_callText holds space (there t member) rfl (declaredName_of_mem member) plain outputs
  rw [root, callText_entryOf] at executed
  rw [executed, ← invoking_entryOf (σ := σ)]
  simp [calling, framed, entryOf, Entry.ofDescriptor, Engine.callHandler, Argument.valueIn]

/-- What is done with a result that comes about may be put for what is done with any result. -/
theorem bind_congr_of_ok {α β : Type} {m : Act Deed σ α} {f g : α → Act Deed σ β} {w : σ}
    (same : ∀ a w' log, m w = ⟨.ok a, w', log⟩ → f a w' = g a w') : (m >>= f) w = (m >>= g) w := by
  rcases done : m w with ⟨f' | a, w', log⟩
  · rw [Act.bind_of_error done, Act.bind_of_error done]
  · rw [Act.bind_of_ok done, Act.bind_of_ok done, same a w' log done]

/-- The built-in capability runs a command as a step does, and shows that it runs and that it ended well. -/
theorem Wired.executeCommand_eq (wired : Wired e) (c : String) :
    Toolbox.executeCommand e (.text c) =
      framed [.show .info ("Executing system command: " ++ c)] [.show .success "System command executed successfully"]
        (command e c) := by
  have shown : (Value.text c).display = c := rfl
  simp only [Toolbox.executeCommand, shown, framed, command, List.forM_eq_forM, List.forM_cons, List.forM_nil,
    bind_assoc, pure_bind]
  refine congrArg _ (funext fun _ => ?_)
  funext w
  refine bind_congr_of_ok fun r w' log ran => ?_
  -- The capability blames the command that the result names, and the step the one that it was given.
  have named : r.command = c := wired.runner _ c w r (congrArg Outcome.result ran)
  rw [named]
  by_cases success : r.success = true
  · by_cases written : (!r.stdout.isEmpty) = true
    · simp [success, written]
    · simp [success, written]
  · simp [success]

section

variable {c : String}

variable (e) in
/-- A step with a content and a call for it agree: the call does what the step does, with lines of its own around it,
and at the same place and in the same session the two come to the same. -/
structure Agree (kind : StepKind) (content call : String) (before after : List Deed) : Prop where
  executed : ∀ outputs, execute e outputs .call call = framed before after (execute e outputs kind content)
  carriedOut : ∀ callback callback' plan plan' index planned planned' s t r r' s' t',
    Begun e callback plan index planned s r s' → Begun e callback' plan' index planned' t r' t' →
      r.ready = r'.ready → r.step.kind = kind → r.step.content = content →
        r'.step.kind = .call → r'.step.content = call →
          CarriedOut e plan r (execute e r.ready.outputs kind content r.ready.world) ∧
            CarriedOut e plan' r' (framed before after (execute e r.ready.outputs kind content) r.ready.world) ∧
            Alike r r' s' t'

theorem agree_of_framed {kind : StepKind} {content call : String} {before after : List Deed}
    (other : kind ≠ .recurse)
    (executed : ∀ outputs, execute e outputs .call call = framed before after (execute e outputs kind content)) :
    Agree e kind content call before after := by
  refine ⟨executed, ?_⟩
  rintro callback callback' plan plan' index planned planned' s t r r' s' t' begun begun' here rfl rfl kind' rfl
  have calls : r'.step.kind ≠ .recurse := by simp [kind']
  have carried := begun.carriedOut other
  have carried' := begun'.carriedOut calls
  rw [kind', executed, ← here] at carried'
  refine ⟨carried, carried', begun.alike begun' here other calls ?_⟩
  rw [kind', executed, framed_apply]

/-- A command or a block of code, given to the built-in capability that runs it, agrees with the step that it is the
content of: the runner gets the same text, the same is shown of what it wrote, and the same output or the same
failure comes of it. This is so for every text that a call can be given and that does not begin like a call itself,
whatever was taken in after the built-in extension, and whatever the runners do. -/
theorem direct_steps_agree (wired : Wired e) (passable : Passable c)
    (direct : ¬ e.catalogue.opening.toList <+: Text.trim c.toList) :
    (∀ outputs, execute e outputs .command c = command e c ∧ execute e outputs .code c = e.host.execute outputs c) ∧
      Agree e .command c (callOf "execute_command" c)
        [invokingTool "execute_command", .show .info ("Executing system command: " ++ c)]
        [.show .success "System command executed successfully"] ∧
      Agree e .code c (callOf "execute_code" c) [invokingTool "execute_code"] [] := by
  have plain : ∀ outputs, execute e outputs .command c = command e c ∧
      execute e outputs .code c = e.host.execute outputs c :=
    execute_eq_run (.inl fun begins => direct begins.1)
  obtain ⟨commandTool, there, named, runs⟩ :
      ∃ t ∈ Toolbox.tools, t.name = "execute_command" ∧ t.builtin = .executeCommand := by decide
  obtain ⟨codeTool, there', named', runs'⟩ :
      ∃ t ∈ Toolbox.tools, t.name = "execute_code" ∧ t.builtin = .executeCode := by decide
  refine ⟨plain, agree_of_framed (by decide) fun outputs => ?_, agree_of_framed (by decide) fun outputs => ?_⟩
  · have called : Toolbox.call e outputs .executeCommand [.text c] = Toolbox.executeCommand e (.text c) := rfl
    have executed := wired.execute_callOf there passable outputs
    rw [named, runs, called, wired.executeCommand_eq, framed_framed] at executed
    rw [executed, (plain outputs).1]
    rfl
  · have called : Toolbox.call e outputs .executeCode [.text c] = e.host.execute outputs c := rfl
    have executed := wired.execute_callOf there' passable outputs
    rw [named', runs', called] at executed
    rw [executed, (plain outputs).2]

end

/-- Collaborators that repeat a command, which fails without an exit code if it is a short one, and code. -/
def echoHost : Host Unit where
  complete := fun _ => pure ""
  command := fun _ text => pure ⟨decide (5 < text.length), text, none, text ++ "\n", " ", none⟩
  execute := fun _ text => pure (.list [.text text])
  files := fun _ => ⟨[]⟩
  putFiles := fun _ w => w

/-- An engine that is put together without any references. -/
def echoEngine : Engine Unit :=
  (Assembly.assembleFrom (fun _ => .error .tooDeep) (fun _ => .error .tooDeep) .standard
    ⟨⟨"", []⟩, ⟨"", []⟩, [], "", []⟩ echoHost).1

/-- A text that looks like the end of a call with more arguments. -/
def trickyText : String := "a\", 'b') # outputList[0]"

theorem direct_steps_agree_tricky :
    Wired echoEngine ∧ Passable trickyText ∧ ¬ echoEngine.catalogue.opening.toList <+: Text.trim trickyText.toList ∧
      Agree echoEngine .command trickyText (callOf "execute_command" trickyText)
        [invokingTool "execute_command", .show .info ("Executing system command: " ++ trickyText)]
        [.show .success "System command executed successfully"] ∧
      Agree echoEngine .code trickyText (callOf "execute_code" trickyText) [invokingTool "execute_code"] [] ∧
      (run echoEngine none
        [⟨.command, trickyText, ""⟩, ⟨.call, callOf "execute_command" trickyText, ""⟩, ⟨.code, trickyText, ""⟩,
          ⟨.call, callOf "execute_code" trickyText, ""⟩, ⟨.command, "false", ""⟩,
          ⟨.call, callOf "execute_command" "false", ""⟩] (.fresh ())).result =
        .ok ⟨.done, 6, [.text (trickyText ++ "\n"), .text (trickyText ++ "\n"), .list [.text trickyText],
          .list [.text trickyText]]⟩ := by
  have wired : Wired echoEngine := wired_assembleFrom _ _ _ _ fun _ _ => namesCommand_pure rfl
  have passable : Passable trickyText :=
    ⟨Call.isTagged_eq_false_iff.mp (by decide), Call.referenceDigits?_eq_none_iff.mp (by decide)⟩
  have direct : ¬ echoEngine.catalogue.opening.toList <+: Text.trim trickyText.toList := by decide
  obtain ⟨-, command, code⟩ := direct_steps_agree wired passable direct
  exact ⟨wired, passable, direct, command, code, by decide +kernel⟩

end Dispatch

end Stepwise
