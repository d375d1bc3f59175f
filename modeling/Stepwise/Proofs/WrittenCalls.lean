import Mathlib.Data.List.Basic
import Stepwise.Proofs.OutputIsolation
import Stepwise.Proofs.RegistrationHistory
import Stepwise.Proofs.TaggedCalls

/-!
Calls of capabilities as plans write them. A step that names an entry of the catalogue calls the handler
behind it with the arguments that the step writes, and does nothing else; a reference stands for an output
of the run. No text makes a step call a handler outside the name space of the catalogue.
-/

namespace Stepwise

variable {σ : Type}

/-- The value of an argument among the outputs of a run. -/
def Argument.valueIn (outputs : List Value) : Argument → Value
  | .literal s => .text s
  | .reference i => outputs.getD i (.text "")

theorem Catalogue.resolveArguments_eq (args : List Argument) (outputs : Outputs) :
    Catalogue.resolveArguments args outputs = args.map (Argument.valueIn outputs.items) := by
  refine List.map_congr_left fun a _ => ?_
  cases a with
  | literal s => rfl
  | reference i => simp [Argument.valueIn, Outputs.get, Outputs.absent]

/-- A declared name that can be part of a call. -/
structure DeclaredName (base : String) : Prop where
  opening : '(' ∉ base.toList
  dot : '.' ∉ base.toList
  start : ∀ c ∈ base.toList.head?, Text.isBlank c = false

/-- Entries are called under names that can be written in a call. -/
theorem Declares.functionName {ext : Extension σ} {number : ℕ} {v : Value} {entry : Entry σ}
    (h : Declares ext number v entry) (named : DeclaredName entry.base) :
    Call.FunctionName entry.name := by
  have digits : Nat.toDigits 10 number ≠ [] := Nat.toDigits_ne_nil
  have last := Numeral.isBlank_of_isDigit (Numeral.isDigit_of_mem (List.getLast_mem digits))
  refine ⟨?_, ?_, ?_, ?_⟩
  · simp [h.toList_name]
  · rw [h.toList_name, Text.trim_eq_self_iff]
    constructor
    · have start := named.start
      cases base : entry.base.toList with
      | nil => simp [show Text.isBlank '_' = false by decide]
      | cons c rest => simpa [base] using start
    · simp [List.getLast?_append, List.getLast?_cons, List.getLast?_eq_some_getLast digits, last]
  · simp [h.toList_name, named.dot, Numeral.notMem_toDigits (show Char.isDigit '.' = false by decide)]
  · simp [h.toList_name, named.opening, Numeral.notMem_toDigits (show Char.isDigit '(' = false by decide)]

namespace Dispatch

/-- The note that a capability is about to be called. -/
def invoking (entry : Entry σ) (given : ℕ) : Deed :=
  .diagnostic .debug .dispatcher ("Invoking " ++ entry.name ++ " with " ++ toString given ++ " args")

variable {e : Engine σ}

/-- A step whose text is a call does what the call says, or nothing if there is no such entry. -/
theorem execute_of_parse {content : String} {c : Call}
    (parsed : Call.parse e.catalogue.root content = .ok c) (outputs : Outputs) :
    (c.space = e.catalogue.root ∧ ∃ entry, e.catalogue.find? c.function = some entry ∧
      execute e outputs .call content = do
        Act.say (invoking entry c.args.length)
        e.invoke outputs entry (c.args.map (Argument.valueIn outputs.items))) ∨
    ((c.space = e.catalogue.root → e.catalogue.find? c.function = none) ∧
      execute e outputs .call content = Act.fail (.unknownCapability c.space c.function)) := by
  have performed : execute e outputs .call content = e.perform outputs c := by
    simp [execute, parsed]
  rw [performed, Engine.perform]
  by_cases own : c.space = e.catalogue.root
  · simp only [Catalogue.resolve, if_pos own]
    cases found : e.catalogue.find? c.function with
    | none => exact .inr ⟨fun _ => rfl, rfl⟩
    | some entry =>
      rw [Catalogue.resolveArguments_eq]
      exact .inl ⟨own, entry, rfl, rfl⟩
  · simp only [Catalogue.resolve, if_neg own]
    exact .inr ⟨fun h => absurd h own, trivial⟩

/-- The text of a call of an entry, with arguments. -/
def callText (root : String) (entry : Entry σ) (args : List Argument) : String :=
  (Call.mk root entry.name args).render

/-- Calls what stands behind an entry once, with the values of arguments among outputs. -/
def calling (e : Engine σ) (entry : Entry σ) (args : List Argument) (outputs : Outputs) :
    Act Deed σ Value := do
  Act.say (invoking entry args.length)
  e.callHandler outputs entry.base entry.handler (args.map (Argument.valueIn outputs.items))

/-- A step that names a function calls what stands behind it. -/
theorem execute_callText {taken : List (Extension σ)} (holds : e.catalogue.Holds taken)
    (space : Call.SpaceName e.catalogue.root) {entry : Entry σ} (member : entry ∈ e.catalogue.entries)
    (function : entry.kind = .function) (named : DeclaredName entry.base) {args : List Argument}
    (plain : ∀ a ∈ args, a.Plain) (outputs : Outputs) :
    execute e outputs .call (callText e.catalogue.root entry args) = calling e entry args outputs := by
  obtain ⟨ext, k, v, -, declared⟩ := holds.declares_of_mem member
  have found := Catalogue.find?_of_mem holds.distinct member
  have parsed : Call.parse e.catalogue.root (callText e.catalogue.root entry args) =
      .ok ⟨e.catalogue.root, entry.name, args⟩ :=
    Call.parse_render space (declared.functionName named) plain _
  -- The names of a catalogue are distinct, so what is found under the name is this entry.
  rcases execute_of_parse parsed outputs with ⟨-, entry', found', executed⟩ | ⟨absent, -⟩
  · rw [found] at found'
    obtain rfl := Option.some.inj found'
    rw [executed]
    simp [calling, Engine.invoke, function]
  · rw [absent rfl] at found
    cases found

/-- A step was carried out, and this is what it came to. Nothing else was done, apart from what the plugins
did that prepared the step. -/
structure CarriedOut (e : Engine σ) (plan : List Step) (r : Record σ) (x : Outcome Deed σ Value) :
    Prop where
  fate : r.fate = .ofResult x.result
  log : ∃ w hooks, Hooks.beforeStep e.participants plan r.index r.planned w =
    ⟨.ok r.step, r.ready.world, hooks⟩ ∧ r.before = hooks ++ description r.step ++ x.log.map .deed
  nested : r.nested = []

theorem Begun.carriedOut {callback : Option (Callback σ)} {plan : List Step} {index : ℕ} {planned : Step}
    {s s' : Session σ} {r : Record σ} (h : Begun e callback plan index planned s r s')
    (kind : r.step.kind ≠ .recurse) :
    CarriedOut e plan r (execute e r.ready.outputs r.step.kind r.step.content r.ready.world) := by
  refine ⟨h.fate_eq kind, ?_, ?_⟩
  · cases h with
    | completed prepared other executed observed =>
      exact ⟨_, _, prepared, by simp [readied, executed]⟩
    | failed prepared other executed => exact ⟨_, _, prepared, by simp [readied, executed]⟩
    | unhandled prepared other absent => exact absurd other kind
    | refused prepared other present called => exact absurd other kind
    | handedOver prepared other present called => exact absurd other kind
  · cases h with
    | completed prepared other executed observed => rfl
    | failed prepared other executed => rfl
    | unhandled prepared other absent => rfl
    | refused prepared other present called => exact absurd other kind
    | handedOver prepared other present called => exact absurd other kind

/-- A capability is called exactly as a plan writes it, whatever extensions the catalogue is made of: at
every point of a run the step does what the handler does with the written arguments, its references being
outputs of the run; and no text that is a call makes a step do more than to report that there is no such
capability, unless the call names an entry in the name space of the catalogue. -/
theorem called_as_written (e : Engine σ) (root : String) (exts : List (Extension σ))
    (catalogue : e.catalogue = .ofExtensions root exts) (space : Call.SpaceName root) (entry : Entry σ)
    (member : entry ∈ e.catalogue.entries) (function : entry.kind = .function)
    (named : DeclaredName entry.base) (args : List Argument) (plain : ∀ a ∈ args, a.Plain) :
    (∀ outputs, execute e outputs .call (callText root entry args) = calling e entry args outputs) ∧
    (∀ callback, KeepsOutputs callback → ∀ plan s,
      ∃ records closing ending s', Lawful e callback plan s records closing ending s' ∧
        ∀ k (hk : k < records.length), records[k].step.kind = .call →
          records[k].step.content = callText root entry args →
            CarriedOut e plan records[k]
              (calling e entry args ⟨outputsOf records k⟩ records[k].ready.world)) ∧
    (∀ outputs content c, Call.parse root content = .ok c →
      (c.space = root ∧ ∃ entry ∈ e.catalogue.entries, entry.name = c.function ∧
        execute e outputs .call content = do
          Act.say (invoking entry c.args.length)
          e.invoke outputs entry (c.args.map (Argument.valueIn outputs.items))) ∨
      execute e outputs .call content = Act.fail (.unknownCapability c.space c.function)) := by
  have registered := (Catalogue.holds_empty (σ := σ) root).registered exts
  have holds : e.catalogue.Holds ([] ++ Catalogue.takenIn exts (Catalogue.outcomes root exts)) := by
    rw [catalogue]
    exact registered.holds
  have rooted : e.catalogue.root = root := by
    rw [catalogue]
    exact (Catalogue.grown_registerAll _ exts).root
  have calls := execute_callText holds (rooted.symm ▸ space) member function named plain
  rw [rooted] at calls
  refine ⟨calls, fun callback keeps plan s => ?_, fun outputs content c parsed => ?_⟩
  · obtain ⟨records, closing, ending, s', lawful, -⟩ := run_lawful (e := e) keeps plan s
    refine ⟨records, closing, ending, s', lawful, fun k hk kind content => ?_⟩
    obtain ⟨i, planned, t, t', begun⟩ := lawful.walk.begun_of_mem (List.getElem_mem hk)
    have carried := begun.carriedOut (by simp [kind])
    rw [kind, content, lawful.ready_eq k hk, calls] at carried
    exact carried
  · rcases execute_of_parse (rooted.symm ▸ parsed) outputs with ⟨own, entry, found, executed⟩ | ⟨-, failed⟩
    · refine .inl ⟨own.trans rooted, entry, List.mem_of_find?_eq_some found, ?_, executed⟩
      simpa using List.find?_some found
    · exact .inr failed

/-- A function that gives its arguments back. -/
def listing : Entry Unit := ⟨"list", 0, [], .function, "", .method false fun args => pure (.list args)⟩

/-- An extension that declares it. -/
def listingExtension : Extension Unit :=
  ⟨.text "E", [], .ok (.list [.object [("name", .text "list")]]), [("list", listing.handler)]⟩

/-- An engine that has taken it in. -/
def listingEngine : Engine Unit :=
  { Engine.plain (.int 2) "" [] with catalogue := .ofExtensions defaultSpace [listingExtension] }

/-- A text that looks like the end of a call with more arguments, a reference, and an empty text. -/
def trickyArguments : List Argument := [.literal "a\", 1), @@ai-arg@", .reference 0, .literal ""]

theorem called_as_written_tricky :
    Call.SpaceName defaultSpace ∧ listing ∈ listingEngine.catalogue.entries ∧ DeclaredName listing.base ∧
      (∀ a ∈ trickyArguments, a.Plain) ∧
      (∀ outputs, execute listingEngine outputs .call (callText defaultSpace listing trickyArguments) =
        calling listingEngine listing trickyArguments outputs) ∧
      (run listingEngine none [.answer "x", ⟨.call, callText defaultSpace listing trickyArguments, ""⟩]
        (.fresh ())).result =
          .ok ⟨.done, 2, [.text "x", .list [.text "a\", 1), @@ai-arg@", .text "x", .text ""]]⟩ := by
  have space : Call.SpaceName defaultSpace := ⟨by decide, by decide, by decide, by decide⟩
  have member : listing ∈ listingEngine.catalogue.entries := List.mem_cons_self
  have named : DeclaredName listing.base := ⟨by decide, by decide, by rintro c ⟨⟩; decide⟩
  have plain : ∀ a ∈ trickyArguments, a.Plain := by
    simp only [trickyArguments, List.forall_mem_cons]
    exact ⟨⟨by decide, by decide⟩, Nat.le_of_ble_eq_true rfl, ⟨by decide, by decide⟩, by simp⟩
  exact ⟨space, member, named, plain,
    (called_as_written listingEngine defaultSpace [listingExtension] rfl space listing member rfl named
      trickyArguments plain).1, by decide +kernel⟩

end Dispatch

end Stepwise
