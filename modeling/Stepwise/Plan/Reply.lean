import Stepwise.Fault
import Stepwise.Json.Reader
import Stepwise.Plan.Step
import Stepwise.Text.Blank
import Stepwise.Value.Display

/-!
One layer of code fence around a reply. An opening fence may name its language, and the blanks
after it belong to it; a closing fence takes the line break before it along.
-/

namespace Stepwise.Fence

/-- Three backticks. -/
def bar : List Char := ['\x60', '\x60', '\x60']

/-- The text after an opening fence, if there is one. -/
def dropOpening (cs : List Char) : List Char :=
  if bar.isPrefixOf cs then
    let rest := cs.drop 3
    Text.trimStart (if "json".toList.isPrefixOf rest then rest.drop 4 else rest)
  else cs

/-- The text before a closing fence, if there is one. -/
def dropClosing (cs : List Char) : List Char :=
  let back := cs.reverse
  if bar.isPrefixOf back then
    let rest := back.drop 3
    (if rest.head? = some '\n' then rest.drop 1 else rest).reverse
  else cs

/-- The text inside one layer of fence, trimmed. -/
def strip (cs : List Char) : List Char :=
  Text.trim (dropClosing (dropOpening (Text.trim cs)))

/-- The string inside one layer of fence, trimmed. -/
def stripped (s : String) : String := String.ofList (strip s.toList)

/-- Blanks around a text do not matter. -/
theorem strip_append {bs bs' : List Char} (h : bs.all Text.isBlank = true) (h' : bs'.all Text.isBlank = true)
    (cs : List Char) : strip (bs ++ cs ++ bs') = strip cs := by
  rw [strip, Text.trim_append h h', strip]

theorem head?_of_isPrefixOf_bar {cs : List Char} (h : bar.isPrefixOf cs = true) : cs.head? = some '\x60' := by
  obtain ⟨rest, rfl⟩ := List.isPrefixOf_iff_prefix.mp h
  rfl

theorem dropOpening_eq_self {cs : List Char} (h : cs.head? ≠ some '\x60') : dropOpening cs = cs :=
  if_neg fun fenced => h (head?_of_isPrefixOf_bar fenced)

theorem dropClosing_eq_self {cs : List Char} (h : cs.getLast? ≠ some '\x60') : dropClosing cs = cs :=
  if_neg fun fenced => h (by rw [← List.head?_reverse]; exact head?_of_isPrefixOf_bar fenced)

/-- A text that has neither a blank nor a backtick at its ends is left as it is. -/
theorem strip_eq_self {cs : List Char} (first : ∀ c ∈ cs.head?, Text.isBlank c = false ∧ c ≠ '\x60')
    (last : ∀ c ∈ cs.getLast?, Text.isBlank c = false ∧ c ≠ '\x60') : strip cs = cs := by
  have trimmed : Text.trim cs = cs :=
    Text.trim_eq_self_iff.mpr ⟨fun c h => (first c h).1, fun c h => (last c h).1⟩
  have opening : dropOpening cs = cs := dropOpening_eq_self fun h => (first _ h).2 rfl
  have closing : dropClosing cs = cs := dropClosing_eq_self fun h => (last _ h).2 rfl
  rw [strip, trimmed, opening, closing, trimmed]

end Stepwise.Fence

/-!
From a reply to a plan. A reply that is a JSON list, perhaps fenced, is a plan of its items; any
other reply is one text answer. Only an overlong integer or bottomless nesting is a fault.
-/

namespace Stepwise.Plan

/-- The steps for the items of a plan. -/
def ofItems (items : List Value) : List Step := items.map Step.ofItem

/-- The plan that a value describes. -/
def ofValue (v : Value) : Except Fault (List Step) := (Fault.elements v).map ofItems

/-- The fault of a JSON text, unless it is only malformed. -/
def faultOf : Json.Failure → Option Fault
  | .malformed .. => none
  | .tooDeep => some .tooDeep
  | .overlong o => some (.overlong o)

/-- The plan in a reply. -/
def ofReply (reply : String) : Except Fault (List Step) :=
  let text := Fence.strip reply.toList
  let prose : List Step := [.answer (String.ofList text)]
  match Json.read text with
  | .ok (.list items) => .ok (ofItems items)
  | .ok _ => .ok prose
  | .error e =>
    match faultOf e with
    | some f => .error f
    | none => .ok prose

/-- What the journal is told about items that are no steps. -/
def itemNotes (items : List Value) : List String :=
  items.filterMap fun
    | .object members =>
      match Step.ofMembers members with
      | .ok _ => none
      | .error r => some ("Plan item failed validation, treating as text: " ++ r.message)
    | _ => none

/-- What the journal is told about a reply that is no plan, or not quite. -/
def replyNotes (reply : String) : List String :=
  let text := Fence.strip reply.toList
  match Json.read text with
  | .ok (.list items) => itemNotes items
  | .error (.malformed what left) =>
    ["Reply is not JSON, treating it as a text answer: " ++ what.message text left]
  | _ => []

/-- A plan in wire form. -/
def toWire (plan : List Step) : Value := .list (plan.map Step.toWire)

end Stepwise.Plan
