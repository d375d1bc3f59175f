import Mathlib.Data.Nat.Digits.Defs
import Stepwise.Proofs.BareArguments
import Stepwise.Proofs.CallExtent

/-!
Calls in canonical form. However a call was written, with or without markers, in any quotes or in none, its
arguments are texts that lie between two markers or have none at all; so each can be written in double quotes behind
a marker. A call that was read from a text and is written in this form is read as the same call again.
-/

namespace Stepwise

namespace Text

variable {sep : List Char}

theorem trim_isInfix (cs : List Char) : trim cs <:+: cs := by
  obtain ⟨blanks, -, start⟩ := exists_trimStart_append cs
  obtain ⟨blanks', -, trimmed⟩ := exists_trimEnd_append (trimStart cs)
  refine ⟨blanks, blanks', ?_⟩
  rw [List.append_assoc, trim, trimmed, start]

theorem trimEnd_isInfix (cs : List Char) : trimEnd cs <:+: cs := by
  obtain ⟨blanks, -, trimmed⟩ := exists_trimEnd_append cs
  exact ⟨[], blanks, by simpa using trimmed⟩

/-- No piece between the occurrences of a word contains the word, and the first one begins the text. -/
theorem exists_splitOn_eq_cons (some : sep ≠ []) (cs : List Char) :
    ∃ p ps, splitOn sep cs = p :: ps ∧ p <+: cs ∧ ∀ q ∈ p :: ps, ¬ sep <:+: q := by
  -- By induction on the length: behind an occurrence of the word, the rest of the text is split anew.
  induction size : cs.length using Nat.strong_induction_on generalizing cs with
  | _ n ih =>
    have empty : ¬ sep <:+: [] := fun inside => some (List.infix_nil.mp inside)
    cases cs with
    | nil => exact ⟨[], [], rfl, List.prefix_refl _, by simpa using empty⟩
    | cons c rest =>
      by_cases here : sep <+: c :: rest
      · obtain ⟨tail, whole⟩ := here
        have shorter : tail.length < n := by
          have lengths := congrArg List.length whole
          have positive := List.length_pos_of_ne_nil some
          rw [List.length_append] at lengths
          omega
        obtain ⟨p, ps, pieces, -, free⟩ := ih tail.length shorter tail rfl
        refine ⟨[], p :: ps, ?_, List.nil_prefix, ?_⟩
        · rw [← whole, splitOn_append_self some, pieces]
        · rw [List.forall_mem_cons]
          exact ⟨empty, free⟩
      · have shorter : rest.length < n := by
          rw [List.length_cons] at size
          omega
        obtain ⟨p, ps, pieces, first, free⟩ := ih rest.length shorter rest rfl
        have first' : c :: p <+: c :: rest := List.cons_prefix_cons.mpr ⟨rfl, first⟩
        rw [List.forall_mem_cons] at free
        refine ⟨c :: p, ps, ?_, first', ?_⟩
        · rw [splitOn_cons here, pieces]
          rfl
        · rw [List.forall_mem_cons]
          refine ⟨fun inside => ?_, free.2⟩
          rcases List.infix_cons_iff.mp inside with begins | later
          · exact here (begins.trans first')
          · exact free.1 later

theorem infix_join_of_mem {p : List Char} {ps : List (List Char)} (member : p ∈ ps) : p <:+: join sep ps := by
  induction ps with
  | nil => cases member
  | cons q ps ih =>
    cases ps with
    | nil =>
      rw [List.mem_singleton] at member
      rw [member]
      exact List.infix_refl q
    | cons r ps =>
      rcases List.mem_cons.mp member with rfl | later
      · exact ⟨[], sep ++ join sep (r :: ps), by simp [join]⟩
      · obtain ⟨before, after, whole⟩ := ih later
        exact ⟨q ++ sep ++ before, after, by simp [join, ← whole]⟩

end Text

namespace Call

theorem infix_of_mem_splitBare {p cs : List Char} (member : p ∈ splitBare cs) : p <:+: cs := by
  have inside : p <:+: Text.join [','] (splitBare cs) := Text.infix_join_of_mem member
  rwa [splitBare, join_cut] at inside

/-- However an argument list is written, the marker is in none of its pieces. -/
theorem not_infix_of_mem_pieces {p cs : List Char} (member : p ∈ pieces cs) : ¬ marker.toList <:+: p := by
  unfold pieces at member
  split at member
  · cases member
  · split at member
    next tagged =>
      obtain ⟨q, qs, split, -, free⟩ := Text.exists_splitOn_eq_cons (show marker.toList ≠ [] by decide) cs
      rw [splitTagged, split] at member
      simp only at member
      split at member
      · exact free p (List.mem_cons_of_mem q member)
      · exact free p member
    next bare =>
      intro inside
      refine bare ?_
      rw [isTagged, Text.occurs_iff_infix]
      exact inside.trans (infix_of_mem_splitBare member)

theorem unquote_isInfix (cs : List Char) : unquote cs <:+: cs := by
  rcases unquote_cases cs with same | ⟨q, -, quoted⟩
  · simp only [same, List.infix_refl]
  · exact ⟨[q], [q], by simpa using quoted.symm⟩

theorem dropComma_isInfix (cs : List Char) : dropComma cs <:+: cs := by
  rw [dropComma]
  split
  · exact (Text.trimEnd_isInfix _).trans (List.dropLast_prefix cs).isInfix
  · exact List.infix_refl cs

/-- The text of an argument is a part of its piece. -/
theorem clean_isInfix (piece : List Char) : clean piece <:+: piece :=
  ((unquote_isInfix _).trans (dropComma_isInfix _)).trans (Text.trim_isInfix piece)

/-- Whatever is read as an argument can be written in canonical form, if it does not hold the marker. -/
theorem Reads.plain {text : List Char} {a : Argument} (reads : Reads text a) (free : ¬ marker.toList <:+: text) :
    a.Plain := by
  cases reads with
  | @reference digits _ form short =>
    have some : 0 < digits.length := List.length_pos_of_ne_nil form.1
    exact (Nat.toDigits_length 10 _ _ some (Numeral.numeral_lt digits)).trans short
  | literal other =>
    rw [Argument.Plain, String.toList_ofList, isTagged_eq_false_iff]
    exact ⟨free, referenceDigits?_eq_none_iff.mpr other⟩

/-- All arguments of an argument list can be written in canonical form, however it is written itself. -/
theorem plain_of_arguments {cs : List Char} {as : List Argument} (read : arguments cs = .ok as) :
    ∀ a ∈ as, a.Plain := by
  have related := mapM_eq_ok_iff.mp read
  have free : ∀ p ∈ pieces cs, ¬ marker.toList <:+: clean p :=
    fun p member inside => not_infix_of_mem_pieces member (inside.trans (clean_isInfix p))
  clear read
  generalize pieces cs = ps at related free
  induction related with
  | nil => simp
  | cons here _ ih =>
    rw [List.forall_mem_cons] at free ⊢
    exact ⟨(toArgument_eq_ok_iff.mp here).plain free.1, ih free.2⟩

/-- What a callee is made of: a name without dots and parentheses, and a name space without parentheses. -/
theorem splitCallee_spec {callee : List Char} (closed : '(' ∉ callee) :
    let parts := splitCallee callee
    (Text.trim parts.1 = parts.1 ∧ '(' ∉ parts.1) ∧ Text.trim parts.2 = parts.2 ∧ '.' ∉ parts.2 ∧ '(' ∉ parts.2 := by
  cases cut : Text.cutLast '.' callee with
  | none =>
    have dotless := Text.cutLast_eq_none_iff.mp cut
    simp only [splitCallee, cut]
    refine ⟨⟨rfl, List.not_mem_nil⟩, Text.trim_trim _, ?_, ?_⟩
    · exact fun member => dotless ((Text.trim_isInfix _).subset member)
    · exact fun member => closed ((Text.trim_isInfix _).subset member)
  | some p =>
    obtain ⟨space, name⟩ := p
    obtain ⟨rfl, dotless⟩ := Text.eq_of_cutLast cut
    rw [List.mem_append, List.mem_cons, not_or, not_or] at closed
    simp only [splitCallee, cut]
    refine ⟨⟨Text.trim_trim _, ?_⟩, Text.trim_trim _, ?_, ?_⟩
    · exact fun member => closed.1 ((Text.trim_isInfix _).subset member)
    · exact fun member => dotless ((Text.trim_isInfix _).subset member)
    · exact fun member => closed.2.2 ((Text.trim_isInfix _).subset member)

theorem dropAwait_isInfix (callee : List Char) : dropAwait callee <:+: callee := by
  rw [dropAwait]
  split
  · exact (Text.trim_isInfix _).trans (List.drop_suffix 6 callee).isInfix
  · exact List.infix_refl callee

/-- The names in a call that was read can be written in front of parentheses. -/
theorem Spells.names {before inside : List Char} {c : Call} (spells : Spells defaultSpace before inside c)
    (opening : '(' ∉ before) (await : ¬ "await ".toList <+: c.space.toList) :
    SpaceName c.space ∧ FunctionName c.function := by
  have closed : '(' ∉ dropAwait (Text.trim before) :=
    fun member => opening (((dropAwait_isInfix _).trans (Text.trim_isInfix _)).subset member)
  obtain ⟨⟨space_trimmed, space_closed⟩, trimmed, dotless, name_closed⟩ := splitCallee_spec closed
  constructor
  · by_cases none : (splitCallee (dropAwait (Text.trim before))).1 = []
    · have root : c.space = defaultSpace := by rw [spells.space, spaceIn, none]; rfl
      rw [root]
      exact ⟨by decide, by decide, by decide, by decide⟩
    · have space : c.space.toList = (splitCallee (dropAwait (Text.trim before))).1 := by
        simp [spells.space, spaceIn, none]
      exact ⟨space ▸ none, by rw [space, space_trimmed], space ▸ space_closed, await⟩
  · have name : c.function.toList = (splitCallee (dropAwait (Text.trim before))).2 := by
      rw [spells.function, String.toList_ofList]
      rfl
    exact ⟨name ▸ spells.named, by rw [name, trimmed], name ▸ dotless, name ▸ name_closed⟩

/-- A call in canonical form: each argument as it is written, in double quotes and behind a marker. -/
def canonical (c : Call) : String :=
  c.space ++ "." ++ c.function ++ "(" ++
    Text.joinText ", " (c.rawArgs.map fun text => marker ++ "\"" ++ text ++ "\"") ++ ")"

/-- The arguments of a call as texts, also those that are references, each to be written in double quotes. -/
def quotedTexts (c : Call) : Quoting := c.args.map fun a => ('"', .literal a.text)

theorem toList_canonical (c : Call) :
    c.canonical.toList = writtenCall c.space c.function (taggedList c.quotedTexts) := by
  simp [canonical, writtenCall, taggedList, quotedTexts, rawArgs, tagged, Text.joinText, Function.comp_def]

/-- The text of an argument that can be written does not hold the marker, and neither does that of a reference. -/
theorem unmarked_text {a : Argument} (plain : a.Plain) : (Argument.literal a.text).Unmarked := by
  cases a with
  | literal s => exact plain.1
  | reference i =>
    rw [Argument.unmarked_literal_iff]
    have free : ¬ marker.toList <:+: ([] : List Char) := by decide
    have quoted : isQuote '"' = true := rfl
    have unmarked : (Argument.reference i).Unmarked := trivial
    have body : ¬ marker.toList <:+: (Argument.reference i).body '"' ++ [] := not_infix_body quoted unmarked free
    rwa [List.append_nil] at body

/-- Writing the arguments in canonical form and reading them gives them back. -/
theorem arguments_quotedTexts {c : Call} (plain : ∀ a ∈ c.args, a.Plain) :
    arguments (taggedList c.quotedTexts) = .ok c.args := by
  have separable : Separable c.quotedTexts := by
    intro p member
    obtain ⟨a, argument, rfl⟩ := List.mem_map.mp member
    exact ⟨rfl, unmarked_text (plain a argument)⟩
  have texts : c.quotedTexts.map (·.2.text.toList) = c.args.map (·.text.toList) := by
    rw [quotedTexts, List.map_map]
    rfl
  rw [arguments_eq_mapM, map_clean_pieces_taggedList separable, texts, mapM_toArgument_text plain]

/-- A call that was read from a text, however it was written there, is read again as the same call when it is
written in canonical form, its references included. -/
theorem parse_canonical {s : String} {c : Call} (read : parse defaultSpace s = .ok c)
    (await : ¬ "await ".toList <+: c.space.toList) : parse defaultSpace c.canonical = .ok c := by
  obtain ⟨before, inside, after, parts, spells⟩ := read_eq_ok_iff.mp read
  obtain ⟨named, named'⟩ := spells.names parts.opening await
  have again := arguments_quotedTexts (plain_of_arguments spells.args)
  have none : ([] : List Char).all Text.isBlank = true := rfl
  have whole := read_writtenCall named named' again defaultSpace none none
  rw [List.nil_append, List.append_nil, ← toList_canonical] at whole
  exact whole

/-- Blanks in odd places, quotes within quotes, digits of other scripts, nothing between two commas, and more text
behind the call. -/
theorem parse_canonical_odd :
    ∃ c, parse defaultSpace "await  a . b ( 'x, y)' , \x60it's\x60,outputList[07], \"outputList[٣]\n\" , ,\"@\" ) ; g" =
        .ok c ∧ ¬ "await ".toList <+: c.space.toList ∧
      c.args = [.literal "x, y)", .literal "it's", .reference 7, .reference 3, .literal "", .literal "@"] ∧
      parse defaultSpace c.canonical = .ok c := by
  have read : parse defaultSpace
      "await  a . b ( 'x, y)' , \x60it's\x60,outputList[07], \"outputList[٣]\n\" , ,\"@\" ) ; g" =
      .ok ⟨"a", "b", [.literal "x, y)", .literal "it's", .reference 7, .reference 3, .literal "", .literal "@"]⟩ := by
    decide
  have await : ¬ "await ".toList <+: "a".toList := by decide
  exact ⟨_, read, await, rfl, parse_canonical read await⟩

end Call

end Stepwise
