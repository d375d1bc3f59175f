import Stepwise.Dispatch
import Stepwise.Proofs.CallReading

/-!
How far a call reaches in its text. A text is a call if a callee stands before its first opening parenthesis and
arguments stand between this and its last closing parenthesis. Whatever follows the last closing parenthesis belongs
to no part of the call, and makes no difference to it; the steps of a plan that may be calls or commands or code are
taken for calls also if something follows there.
-/

namespace Stepwise

namespace Call

/-- The name space in front of a function; calls without one belong to the root. -/
def spaceIn (root : String) (before : List Char) : String :=
  let space := (splitCallee (dropAwait (Text.trim before))).1
  if space.isEmpty then root else String.ofList space

/-- The call that is written as a callee and an argument list. -/
structure Spells (root : String) (before inside : List Char) (c : Call) : Prop where
  named : functionIn before ≠ []
  space : c.space = spaceIn root before
  function : c.function = String.ofList (functionIn before)
  args : arguments inside = .ok c.args

/-- Where a call ends, the text may go on. -/
theorem Parts.dropAfter {cs before inside after : List Char} (h : Parts cs before inside after) :
    Parts (before ++ '(' :: (inside ++ [')'])) before inside [] := by
  refine ⟨?_, h.opening, List.not_mem_nil⟩
  have start := (Text.trim_eq_self_iff.mp (Text.trim_trim cs)).1
  rw [h.text] at start
  rw [Text.trim_eq_self_iff]
  constructor
  · intro c first
    refine start c ?_
    cases before with
    | nil => exact first
    | cons b before => exact first
  · intro c last
    have closing : (before ++ '(' :: (inside ++ [')'])).getLast? = some ')' := by
      simp [List.getLast?_append, List.getLast?_cons]
    rw [closing] at last
    cases last
    decide

variable {root : String} {cs : List Char}

/-- What is read from a text with the parts of a call depends on its callee and its argument list only. -/
theorem read_congr_parts {ds before inside after after' : List Char} (h : Parts cs before inside after)
    (h' : Parts ds before inside after') : read root cs = read root ds := by
  unfold read
  simp only [h.text, h'.text, Text.cutFirst_append h.opening, Text.cutLast_append inside h.closing,
    Text.cutLast_append inside h'.closing]

/-- The call that a text with all its parts is read as. -/
theorem read_of_spells {before inside after : List Char} {c : Call} (h : Parts cs before inside after)
    (spells : Spells root before inside c) : read root cs = .ok c := by
  obtain ⟨space, function, args⟩ := c
  obtain ⟨named, rfl, rfl, taken⟩ := spells
  have some : (splitCallee (dropAwait (Text.trim before))).2.isEmpty = false := by
    simpa [functionIn] using named
  unfold read
  simp only [h.text, Text.cutFirst_append h.opening, Text.cutLast_append inside h.closing, some, taken]
  rfl

/-- A text is read as a call if it has the parts of this call, and something else may follow. -/
theorem read_eq_ok_iff {c : Call} : read root cs = .ok c ↔
    ∃ before inside after, Parts cs before inside after ∧ Spells root before inside c := by
  constructor
  · intro ok
    rcases read_cases root cs with none | none | ⟨before, inside, after, parts⟩
    · rw [none] at ok
      cases ok
    · rw [none] at ok
      cases ok
    · refine ⟨before, inside, after, parts, ?_⟩
      rcases read_of_parts root parts with ⟨none, -⟩ | ⟨named, ⟨c', read, taken⟩ | ⟨o, failed, -⟩⟩
      · rw [none] at ok
        cases ok
      · -- The call with these parts is the only one that the text can be read as.
        have spells : Spells root before inside ⟨spaceIn root before, String.ofList (functionIn before), c'.args⟩ :=
          ⟨named, rfl, rfl, taken⟩
        rw [read_of_spells parts spells] at ok
        cases ok
        exact spells
      · rw [failed] at ok
        cases ok
  · rintro ⟨before, inside, after, parts, spells⟩
    exact read_of_spells parts spells

theorem read_trim : read root (Text.trim cs) = read root cs := by
  rw [read, Text.trim_trim]
  rfl

/-- A text that lacks a part of a call. -/
def Lacks (r : Except Refusal Call) : Prop :=
  r = .error .noOpening ∨ r = .error .noClosing ∨ r = .error .noName

/-- A text lacks a part of a call only if there are no parentheses in it, or no name stands before them. -/
theorem lacks_read_iff : Lacks (read root cs) ↔
    ¬ ∃ before inside after, Parts cs before inside after ∧ functionIn before ≠ [] := by
  constructor
  · rintro lacks ⟨before, inside, after, parts, named⟩
    rcases read_of_parts root parts with ⟨-, none⟩ | ⟨-, ⟨c, ok, -⟩ | ⟨o, failed, -⟩⟩
    · exact named none
    · rw [ok] at lacks
      simp [Lacks] at lacks
    · rw [failed] at lacks
      simp [Lacks] at lacks
  · intro none
    rcases read_cases root cs with opening | closing | ⟨before, inside, after, parts⟩
    · exact .inl opening
    · exact .inr (.inl closing)
    · rcases read_of_parts root parts with ⟨nameless, -⟩ | ⟨named, -⟩
      · exact .inr (.inr nameless)
      · exact absurd ⟨before, inside, after, parts, named⟩ none

end Call

namespace Dispatch

variable {σ : Type} {e : Engine σ} {content : String}

/-- A single line that begins like a call of a capability. -/
def BeginsLikeCall (e : Engine σ) (content : String) : Prop :=
  e.catalogue.opening.toList <+: Text.trim content.toList ∧ '\n' ∉ Text.trim content.toList

theorem directCall?_of_begins (begins : BeginsLikeCall e content) :
    directCall? e content = match Call.parse e.catalogue.root content with
      | .ok c => some (.ok c)
      | .error (.overlong o) => some (.error (.overlong o))
      | .error _ => none := by
  have opened : e.catalogue.opening.toList.isPrefixOf (Text.trim content.toList) = true :=
    List.isPrefixOf_iff_prefix.mpr begins.1
  have line : (Text.trim content.toList).contains '\n' = false := by
    simpa using begins.2
  simp only [directCall?, opened, line, Call.read_trim]
  rfl

theorem directCall?_of_not_begins (other : ¬ BeginsLikeCall e content) : directCall? e content = none := by
  unfold directCall?
  refine if_neg fun begins => other ?_
  simpa [BeginsLikeCall] using begins

/-- Commands and code that are calls, whatever follows the call, are carried out as calls. -/
theorem execute_eq_perform (begins : BeginsLikeCall e content) {c : Call}
    (parsed : Call.parse e.catalogue.root content = .ok c) (outputs : Outputs) :
    execute e outputs .command content = e.perform outputs c ∧
      execute e outputs .code content = e.perform outputs c := by
  have direct : directCall? e content = some (.ok c) := by
    rw [directCall?_of_begins begins, parsed]
  simp [execute, direct, carryOut]

/-- Commands and code that are no calls are run as they stand, as a whole. -/
theorem execute_eq_run (other : ¬ BeginsLikeCall e content ∨ Call.Lacks (Call.parse e.catalogue.root content))
    (outputs : Outputs) :
    execute e outputs .command content = command e content ∧
      execute e outputs .code content = e.host.execute outputs content := by
  have direct : directCall? e content = none := by
    by_cases begins : BeginsLikeCall e content
    · rw [directCall?_of_begins begins]
      rcases other.resolve_left (not_not.mpr begins) with none | none | none <;> rw [none]
    · exact directCall?_of_not_begins begins
  simp [execute, direct]

/-- A call ends with the last closing parenthesis of its text. A text is a call if it has a callee, an opening
parenthesis, an argument list and a closing parenthesis, and the rest of it, which has no closing parenthesis, makes
no difference; it lacks a part of a call only if these are not there. So a command, or a block of code, on a single
line that begins like a call is carried out as this call without the rest, and is run as a whole only if it lacks a
part of a call. -/
theorem call_ends_at_last_closing (e : Engine σ) (content : String) :
    (∀ root c, Call.parse root content = .ok c ↔
      ∃ before inside after, Call.Parts content.toList before inside after ∧ Call.Spells root before inside c) ∧
    (∀ root, Call.Lacks (Call.parse root content) ↔
      ¬ ∃ before inside after, Call.Parts content.toList before inside after ∧ Call.functionIn before ≠ []) ∧
    (∀ root before inside after, Call.Parts content.toList before inside after →
      Call.parse root content = Call.parse root (String.ofList (before ++ '(' :: (inside ++ [')'])))) ∧
    (BeginsLikeCall e content → ∀ c, Call.parse e.catalogue.root content = .ok c → ∀ outputs,
      execute e outputs .command content = e.perform outputs c ∧
        execute e outputs .code content = e.perform outputs c) ∧
    (¬ BeginsLikeCall e content ∨ Call.Lacks (Call.parse e.catalogue.root content) → ∀ outputs,
      execute e outputs .command content = command e content ∧
        execute e outputs .code content = e.host.execute outputs content) := by
  refine ⟨?_, ?_, ?_, ?_, ?_⟩
  · intro root c
    exact Call.read_eq_ok_iff
  · intro root
    exact Call.lacks_read_iff
  · intro root before inside after parts
    rw [Call.parse, Call.parse, String.toList_ofList]
    exact Call.read_congr_parts parts parts.dropAfter
  · intro begins c parsed outputs
    exact execute_eq_perform begins parsed outputs
  · intro other outputs
    exact execute_eq_run other outputs

/-- A text that goes on after a call, with the pipe to another command, is read as the call alone. -/
theorem pipe_after_call_dropped :
    ¬ ∀ (s : String) (c : Call), Call.parse defaultSpace s = .ok c →
      ∃ before inside, Text.trim s.toList = before ++ '(' :: (inside ++ [')']) := by
  intro whole
  have read : Call.parse defaultSpace "base_function.file_exists_0(\"a\") | wc -l" =
      .ok ⟨defaultSpace, "file_exists_0", [.literal "a"]⟩ := by decide
  obtain ⟨before, inside, text⟩ := whole _ _ read
  have closing : (before ++ '(' :: (inside ++ [')'])).getLast? = some ')' := by
    simp [List.getLast?_append, List.getLast?_cons]
  have last : (Text.trim "base_function.file_exists_0(\"a\") | wc -l".toList).getLast? = some 'l' := by decide
  rw [text, closing] at last
  cases last

end Dispatch

end Stepwise
