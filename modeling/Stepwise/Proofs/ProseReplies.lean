import Mathlib.Data.List.Basic
import Stepwise.Plan.Reply

/-!
Replies in prose. A reply that is no list is one text answer, but the answer is not the reply as it
stands: a fence at its beginning and a fence at its end are gone, whether or not they belong together.
What is cut off is told exactly, and so is when nothing is.
-/

namespace Stepwise

namespace Fence

open Text

/-- What is cut off at the beginning of a text: nothing, or a fence with the word `json` perhaps, and the
blanks after it. -/
def IsOpening (cs : List Char) : Prop :=
  cs = [] ∨ ∃ word blanks, cs = bar ++ word ++ blanks ∧ (word = [] ∨ word = "json".toList) ∧
    blanks.all isBlank = true

/-- What is cut off at the end of a text: nothing, or a fence and the blanks before it. -/
def IsClosing (cs : List Char) : Prop :=
  cs = [] ∨ ∃ blanks, cs = blanks ++ bar ∧ blanks.all isBlank = true

theorem length_bar : bar.length = 3 := rfl

/-- A text that begins with a fence is the fence and the rest. -/
theorem eq_bar_append {cs : List Char} (h : bar <+: cs) : cs = bar ++ cs.drop 3 := by
  obtain ⟨rest, rfl⟩ := h
  rw [List.drop_left' length_bar]

theorem dropOpening_of_bar {cs : List Char} (h : bar <+: cs) : dropOpening cs = trimStart
    (if "json".toList.isPrefixOf (cs.drop 3) then (cs.drop 3).drop 4 else cs.drop 3) :=
  if_pos (List.isPrefixOf_iff_prefix.mpr h)

theorem dropOpening_of_not_bar {cs : List Char} (h : ¬ bar <+: cs) : dropOpening cs = cs :=
  if_neg fun fenced => h (List.isPrefixOf_iff_prefix.mp fenced)

/-- A fence at the beginning is cut off with the word and the blanks that belong to it. -/
theorem exists_dropOpening (cs : List Char) :
    ∃ opening, cs = opening ++ dropOpening cs ∧ IsOpening opening ∧ (opening = [] ↔ ¬ bar <+: cs) := by
  by_cases fenced : bar <+: cs
  · have whole := eq_bar_append fenced
    by_cases tagged : "json".toList.isPrefixOf (cs.drop 3) = true
    · obtain ⟨rest, named⟩ := List.isPrefixOf_iff_prefix.mp tagged
      have behind : (cs.drop 3).drop 4 = rest := by
        rw [← named]
        rfl
      obtain ⟨blanks, blank, split⟩ := exists_trimStart_append rest
      refine ⟨bar ++ "json".toList ++ blanks, ?_, .inr ⟨_, _, rfl, .inr rfl, blank⟩,
        iff_of_false (by simp [bar]) (not_not_intro fenced)⟩
      rw [dropOpening_of_bar fenced, if_pos tagged, behind]
      calc cs = bar ++ ("json".toList ++ (blanks ++ trimStart rest)) := by rw [split, named, ← whole]
        _ = bar ++ "json".toList ++ blanks ++ trimStart rest := by simp only [List.append_assoc]
    · obtain ⟨blanks, blank, split⟩ := exists_trimStart_append (cs.drop 3)
      refine ⟨bar ++ [] ++ blanks, ?_, .inr ⟨_, _, rfl, .inl rfl, blank⟩,
        iff_of_false (by simp [bar]) (not_not_intro fenced)⟩
      rw [dropOpening_of_bar fenced, if_neg tagged, List.append_nil, List.append_assoc, split]
      exact whole
  · refine ⟨[], ?_, .inl rfl, iff_of_true rfl fenced⟩
    rw [dropOpening_of_not_bar fenced, List.nil_append]

/-- A fence at the end is cut off, with a line feed before it. -/
theorem exists_dropClosing (cs : List Char) :
    ∃ closing, cs = dropClosing cs ++ closing ∧ IsClosing closing ∧ (closing = [] ↔ ¬ bar <:+ cs) := by
  have turned : bar.reverse <+: cs.reverse ↔ bar <:+ cs := List.reverse_prefix
  by_cases fenced : bar <+: cs.reverse
  · have cut : dropClosing cs =
        (if (cs.reverse.drop 3).head? = some '\n' then (cs.reverse.drop 3).drop 1
          else cs.reverse.drop 3).reverse := if_pos (List.isPrefixOf_iff_prefix.mpr fenced)
    have ended : cs = (cs.reverse.drop 3).reverse ++ bar := by
      have flipped := congrArg List.reverse (eq_bar_append fenced)
      rw [List.reverse_reverse, List.reverse_append] at flipped
      exact flipped
    have there : ¬ ¬ bar <:+ cs := not_not_intro (turned.mp fenced)
    by_cases line : (cs.reverse.drop 3).head? = some '\n'
    · obtain ⟨rest, feed⟩ := List.head?_eq_some_iff.mp line
      refine ⟨['\n'] ++ bar, ?_, .inr ⟨_, rfl, rfl⟩, iff_of_false (by simp) there⟩
      rw [cut, if_pos line, feed, List.drop_one, List.tail_cons, ← List.append_assoc,
        ← List.reverse_cons, ← feed]
      exact ended
    · refine ⟨[] ++ bar, ?_, .inr ⟨_, rfl, rfl⟩, iff_of_false (by simp [bar]) there⟩
      rw [cut, if_neg line]
      exact ended
  · refine ⟨[], ?_, .inl rfl, iff_of_true rfl fun h => fenced (turned.mpr h)⟩
    rw [dropClosing, if_neg fun h => fenced (List.isPrefixOf_iff_prefix.mp h), List.append_nil]

/-- Behind an opening a text begins with no blank. -/
theorem trimStart_dropOpening {cs : List Char} (trimmed : trimStart cs = cs) :
    trimStart (dropOpening cs) = dropOpening cs := by
  by_cases fenced : bar <+: cs
  · rw [dropOpening_of_bar fenced]
    exact trimStart_trimStart _
  · rw [dropOpening_of_not_bar fenced]
    exact trimmed

/-- What is left at the end of a trimmed text ends with no blank. -/
theorem trimEnd_of_append {cs opening rest : List Char} (whole : trim cs = opening ++ rest) :
    trimEnd rest = rest := by
  have trimmed := trim_eq_self_iff.mp (trim_trim cs)
  apply trimEnd_eq_self_iff.mpr
  intro c last
  apply trimmed.2
  rw [whole]
  exact List.mem_getLast?_append_of_mem_getLast? last

/-- The text in a fence is what is left when an opening and a closing are cut off; nothing else is lost,
and all that is left stands as it did. -/
theorem exists_strip_append (cs : List Char) :
    ∃ opening closing, trim cs = opening ++ strip cs ++ closing ∧ IsOpening opening ∧ IsClosing closing ∧
      (opening = [] ∧ closing = [] ↔ ¬ bar <+: trim cs ∧ ¬ bar <:+ trim cs) := by
  obtain ⟨opening, front, isOpening, opened⟩ := exists_dropOpening (trim cs)
  obtain ⟨closing, back, isClosing, closed⟩ := exists_dropClosing (dropOpening (trim cs))
  obtain ⟨blanks, blank, split⟩ := exists_trimEnd_append (dropClosing (dropOpening (trim cs)))
  have start : trimStart (dropClosing (dropOpening (trim cs))) = dropClosing (dropOpening (trim cs)) := by
    have trimmed := trimStart_dropOpening (trimStart_trimEnd (trimStart_trimStart cs))
    rw [← trim] at trimmed
    apply trimStart_eq_self_iff.mpr
    intro c first
    apply trimStart_eq_self_iff.mp trimmed
    rw [back]
    exact List.mem_head?_append_of_mem_head? first
  have left : strip cs = trimEnd (dropClosing (dropOpening (trim cs))) := by
    rw [strip, trim, start]
  have whole : trim cs = opening ++ strip cs ++ (blanks ++ closing) := by
    calc trim cs = opening ++ (dropClosing (dropOpening (trim cs)) ++ closing) := by rw [← back, ← front]
      _ = opening ++ (strip cs ++ blanks ++ closing) := by rw [left, split]
      _ = opening ++ strip cs ++ (blanks ++ closing) := by simp only [List.append_assoc]
  -- without a fence at its end the text is trimmed there already
  have bare : closing = [] → blanks = [] := by
    intro unclosed
    have ended : trimEnd (dropOpening (trim cs)) = dropOpening (trim cs) := trimEnd_of_append front
    rw [unclosed, List.append_nil] at back
    rw [← back, ended] at split
    exact List.append_right_eq_self.mp split
  refine ⟨opening, blanks ++ closing, whole, isOpening, ?_, ?_⟩
  · rcases isClosing with unclosed | ⟨blanks', fenced, blank'⟩
    · rw [unclosed, bare unclosed]
      exact .inl rfl
    · exact .inr ⟨blanks ++ blanks', by rw [fenced, List.append_assoc], by simp [blank, blank']⟩
  · have same : opening = [] → dropOpening (trim cs) = trim cs := by
      intro unopened
      rw [unopened, List.nil_append] at front
      exact front.symm
    constructor
    · rintro ⟨unopened, unclosed⟩
      have none := closed.mp (List.append_eq_nil_iff.mp unclosed).2
      rw [same unopened] at none
      exact ⟨opened.mp unopened, none⟩
    · rintro ⟨first, last⟩
      have unopened := opened.mpr first
      have unclosed : closing = [] := by
        apply closed.mpr
        rw [same unopened]
        exact last
      exact ⟨unopened, by rw [unclosed, bare unclosed]; rfl⟩

/-- A fence, marked as JSON or not, around a body. -/
def Encloses (body cs : List Char) : Prop :=
  cs = bar ++ body ++ bar ∨ cs = bar ++ "json".toList ++ body ++ bar

end Fence

namespace Plan

/-- Reading the text in a reply gives no list: it is malformed, or there is another value in it. -/
def IsProse (reply : String) : Prop :=
  (∃ what left, Json.read (Fence.strip reply.toList) = .error (.malformed what left)) ∨
    ∃ v, Json.read (Fence.strip reply.toList) = .ok v ∧ ∀ items, v ≠ .list items

/-- The reply becomes one text answer that is the reply itself, blanks at its ends aside. -/
def KeptWhole (reply : String) : Prop :=
  ∃ content, ofReply reply = .ok [.answer content] ∧ Text.trimmed content = Text.trimmed reply

/-- A reply in prose becomes one text answer, with the text in its fence. -/
theorem ofReply_of_prose {reply : String} (prose : IsProse reply) :
    ofReply reply = .ok [.answer (Fence.stripped reply)] := by
  rcases prose with ⟨what, left, unread⟩ | ⟨v, read, other⟩
  · simp only [ofReply, unread, faultOf]
    rfl
  · cases v with
    | list items => exact absurd rfl (other items)
    | _ =>
      simp only [ofReply, read]
      rfl

/-- Nothing is around a text that is all of itself. -/
theorem nil_of_eq_append {opening content closing : List Char}
    (whole : content = opening ++ content ++ closing) : opening = [] ∧ closing = [] := by
  have lengths := congrArg List.length whole
  rw [List.length_append, List.length_append] at lengths
  exact ⟨List.length_eq_zero_iff.mp (by omega), List.length_eq_zero_iff.mp (by omega)⟩

/-- An answer is the reply, blanks aside, if it is the whole of it in the fence. -/
theorem keptWhole_iff {reply : String} (prose : IsProse reply) :
    KeptWhole reply ↔ Fence.strip reply.toList = Text.trim reply.toList := by
  have answered := ofReply_of_prose prose
  have trimmed : Text.trimmed (Fence.stripped reply) = Fence.stripped reply := by
    rw [Text.trimmed, Fence.stripped, String.toList_ofList, Fence.strip, Text.trim_trim]
  constructor
  · rintro ⟨content, told, same⟩
    rw [answered] at told
    have steps := Except.ok.inj told
    have content_eq := congrArg Step.content (List.head_eq_of_cons_eq steps)
    simp only [Step.answer] at content_eq
    rw [← content_eq, trimmed] at same
    exact String.ofList_injective same
  · intro same
    refine ⟨_, answered, ?_⟩
    rw [trimmed, Fence.stripped, same]
    rfl

/-- A reply in prose becomes one text answer, which is the reply without a fence at its beginning and one at
its end; so it is kept whole exactly if there is no fence in either place. -/
theorem prose_answered (reply : String) (prose : IsProse reply) :
    ∃ opening content closing, Text.trim reply.toList = opening ++ content ++ closing ∧
      Fence.IsOpening opening ∧ Fence.IsClosing closing ∧
      ofReply reply = .ok [.answer (String.ofList content)] ∧
      (KeptWhole reply ↔ opening = [] ∧ closing = []) ∧
      (KeptWhole reply ↔
        ¬ Fence.bar <+: Text.trim reply.toList ∧ ¬ Fence.bar <:+ Text.trim reply.toList) := by
  obtain ⟨opening, closing, whole, isOpening, isClosing, bare⟩ :=
    Fence.exists_strip_append reply.toList
  have kept : KeptWhole reply ↔ opening = [] ∧ closing = [] := by
    rw [keptWhole_iff prose]
    constructor
    · intro same
      rw [← same] at whole
      exact nil_of_eq_append whole
    · rintro ⟨unopened, unclosed⟩
      rw [whole, unopened, unclosed, List.nil_append, List.append_nil]
  exact ⟨opening, _, closing, whole, isOpening, isClosing, ofReply_of_prose prose, kept, kept.trans bare⟩

/-- An answer that ends with a block of code. -/
def blockReply : String := "Run this:\n\x60\x60\x60\nls\n\x60\x60\x60"

theorem isProse_blockReply : IsProse blockReply := .inl ⟨_, _, rfl⟩

theorem prose_answered_block :
    IsProse blockReply ∧
      ∃ opening content closing, Text.trim blockReply.toList = opening ++ content ++ closing ∧
        Fence.IsOpening opening ∧ Fence.IsClosing closing ∧
        ofReply blockReply = .ok [.answer (String.ofList content)] ∧
        (KeptWhole blockReply ↔ opening = [] ∧ closing = []) ∧
        (KeptWhole blockReply ↔
          ¬ Fence.bar <+: Text.trim blockReply.toList ∧ ¬ Fence.bar <:+ Text.trim blockReply.toList) :=
  ⟨isProse_blockReply, prose_answered _ isProse_blockReply⟩

/-- The block of code stays open in the answer, although the reply is no list, neither as it stands nor
within a fence. -/
theorem block_left_open :
    ¬ ∀ reply : String, (∀ items, Json.read (Text.trim reply.toList) ≠ .ok (.list items)) →
      (∀ body items, Fence.Encloses body (Text.trim reply.toList) →
        Json.read (Text.trim body) ≠ .ok (.list items)) → IsProse reply → KeptWhole reply := by
  intro claimed
  have trimmed : Text.trim blockReply.toList = blockReply.toList := by decide
  have plain : ∀ items, Json.read (Text.trim blockReply.toList) ≠ .ok (.list items) := by
    intro items read
    rw [trimmed] at read
    cases read
  have unfenced : ∀ body items, Fence.Encloses body (Text.trim blockReply.toList) →
      Json.read (Text.trim body) ≠ .ok (.list items) := by
    rintro body items (whole | whole) <;> rw [trimmed] at whole <;> cases whole
  have kept := (keptWhole_iff isProse_blockReply).mp (claimed _ plain unfenced isProse_blockReply)
  have cut : Fence.strip blockReply.toList ≠ Text.trim blockReply.toList := by decide
  exact cut kept

end Plan

end Stepwise
