import Stepwise.Proofs.ProseReplies

/-!
Replies in a fence. From a body on lines of its own one layer of fence is taken, and nothing of the body but the
blanks at its ends, whatever fences it has itself. So a plan is the same plan with a fence around it and without, if
there is no fence of its own at its ends.
-/

namespace Stepwise

namespace Fence

open Text

/-- A text on lines of its own in a fence, which may name what it holds. -/
def around (word text : String) : String := "```" ++ word ++ "\n" ++ text ++ "\n```"

theorem toList_around (word text : String) :
    (around word text).toList = bar ++ word.toList ++ '\n' :: (text.toList ++ '\n' :: bar) := by
  simp [around, bar]

/-- An opening is cut off with its line and the blanks behind it. -/
theorem dropOpening_append {word : List Char} (named : word = [] ∨ word = "json".toList) (rest : List Char) :
    dropOpening (bar ++ word ++ '\n' :: rest) = trimStart rest := by
  have line : trimStart ('\n' :: rest) = trimStart rest := by
    have blank : ['\n'].all isBlank = true := by decide
    exact trimStart_append_left blank rest
  have begins : bar <+: bar ++ word ++ '\n' :: rest := by
    rw [List.append_assoc]
    exact List.prefix_append _ _
  have behind : (bar ++ word ++ '\n' :: rest).drop 3 = word ++ '\n' :: rest := by
    rw [List.append_assoc, List.drop_left' length_bar]
  rw [dropOpening_of_bar begins, behind]
  rcases named with rfl | rfl
  · have unnamed : "json".toList.isPrefixOf ([] ++ '\n' :: rest) = false := rfl
    rw [unnamed]
    exact line
  · have tagged : "json".toList.isPrefixOf ("json".toList ++ '\n' :: rest) = true :=
      List.isPrefixOf_iff_prefix.mpr (List.prefix_append _ _)
    have four : "json".toList.length = 4 := rfl
    rw [if_pos tagged, List.drop_left' four]
    exact line

/-- A closing is cut off with the line feed before it, whatever that ends. -/
theorem dropClosing_append (cs : List Char) : dropClosing (cs ++ '\n' :: bar) = cs := by
  have back : (cs ++ '\n' :: bar).reverse = bar ++ '\n' :: cs.reverse := by
    simp [bar]
  have fenced : bar.isPrefixOf (bar ++ '\n' :: cs.reverse) = true :=
    List.isPrefixOf_iff_prefix.mpr (List.prefix_append _ _)
  have behind : (bar ++ '\n' :: cs.reverse).drop 3 = '\n' :: cs.reverse := List.drop_left' length_bar
  simp only [dropClosing, back, fenced, behind, if_true, List.head?_cons, List.drop_one, List.tail_cons,
    List.reverse_reverse]

/-- Of a body in a fence, what is left is the body, whatever it holds. -/
theorem strip_around {word : List Char} (named : word = [] ∨ word = "json".toList) (body : List Char) :
    strip (bar ++ word ++ '\n' :: (body ++ '\n' :: bar)) = trim body := by
  have whole : trim (bar ++ word ++ '\n' :: (body ++ '\n' :: bar)) =
      bar ++ word ++ '\n' :: (body ++ '\n' :: bar) := by
    rw [trim_eq_self_iff]
    constructor
    · rintro c ⟨⟩
      decide
    · intro c last
      have ending : (bar ++ word ++ '\n' :: (body ++ '\n' :: bar)).getLast? = some '\x60' := by
        simp [bar, List.getLast?_append, List.getLast?_cons]
      rw [ending] at last
      cases last
      decide
  rw [strip, whole, dropOpening_append named]
  -- The blanks behind the opening may be all there is; then the line feed before the closing goes with them.
  cases blank : body.all isBlank with
  | true =>
    have line : (body ++ ['\n']).all isBlank = true := by
      simp [blank, show isBlank '\n' = true by decide]
    have start : trimStart (body ++ '\n' :: bar) = bar := by
      have cut := trimStart_append_left line bar
      rw [List.append_assoc] at cut
      exact cut
    have none : trim body = [] := by
      rw [trim, trimStart_eq_nil_iff.mpr blank]
      rfl
    rw [start, none]
    rfl
  | false =>
    rw [trimStart_append_of_not_blank blank, dropClosing_append, trim, trimStart_trimStart, ← trim]

/-- From a text without a fence at either end only blanks are trimmed. -/
theorem strip_eq_trim {cs : List Char} (first : ¬ bar <+: trim cs) (last : ¬ bar <:+ trim cs) :
    strip cs = trim cs := by
  obtain ⟨opening, closing, whole, -, -, bare⟩ := exists_strip_append cs
  obtain ⟨unopened, unclosed⟩ := bare.mpr ⟨first, last⟩
  rw [whole, unopened, unclosed, List.nil_append, List.append_nil]

end Fence

namespace Plan

/-- A reply counts by the text in its fence alone. -/
theorem ofReply_congr {reply reply' : String}
    (same : Fence.strip reply.toList = Fence.strip reply'.toList) : ofReply reply = ofReply reply' := by
  simp only [ofReply, same]

/-- One layer of fence is taken off, whatever is in it and whatever blanks are around it, and where there is none at
either end, nothing but blanks is taken. So a reply without fences of its own comes to the same in a fence. -/
theorem fence_taken_off_once (text : String) {word before after : String} (named : word = "" ∨ word = "json")
    (blank : Text.isBlankText before = true) (blank' : Text.isBlankText after = true) :
    Fence.stripped (before ++ Fence.around word text ++ after) = Text.trimmed text ∧
      (¬ Fence.bar <+: Text.trim text.toList → ¬ Fence.bar <:+ Text.trim text.toList →
        Fence.stripped text = Text.trimmed text ∧
          ofReply (before ++ Fence.around word text ++ after) = ofReply text) := by
  have within : Fence.strip (before ++ Fence.around word text ++ after).toList = Text.trim text.toList := by
    have named' : word.toList = [] ∨ word.toList = "json".toList := by
      rcases named with rfl | rfl
      · exact .inl rfl
      · exact .inr rfl
    rw [String.toList_append, String.toList_append, Fence.strip_append blank blank', Fence.toList_around,
      Fence.strip_around named']
  constructor
  · rw [Fence.stripped, within, Text.trimmed]
  · intro first last
    have bare := Fence.strip_eq_trim first last
    refine ⟨by rw [Fence.stripped, bare, Text.trimmed], ?_⟩
    apply ofReply_congr
    rw [within, bare]

/-- A body that begins and ends with fences and blanks of its own keeps the fences. -/
theorem fence_taken_off_once_nested :
    Text.isBlankText "\n " = true ∧ Text.isBlankText "\u3000" = true ∧
      Fence.stripped ("\n " ++ Fence.around "json" "\n```\n[]\n```\t" ++ "\u3000") = "```\n[]\n```" ∧
      ofReply ("\n " ++ Fence.around "" " [\"```\"]\n" ++ "\u3000") = ofReply " [\"```\"]\n" := by
  have blank : Text.isBlankText "\n " = true := by decide
  have blank' : Text.isBlankText "\u3000" = true := by decide
  have nested := (fence_taken_off_once "\n```\n[]\n```\t" (.inr rfl) blank blank').1
  have plain := (fence_taken_off_once " [\"```\"]\n" (.inl rfl) blank blank').2
  refine ⟨blank, blank', ?_, ?_⟩
  · rw [nested]
    decide
  · refine (plain ?_ ?_).2
    · rw [← List.isPrefixOf_iff_prefix]
      decide
    · rw [← List.isSuffixOf_iff_suffix]
      decide

end Plan

end Stepwise
