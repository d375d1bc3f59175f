import Mathlib.Data.List.Basic
import Stepwise.Call.Parser
import Stepwise.Call.Printer
import Stepwise.Proofs.Numerals

/-!
Reading calls in tagged notation. The marker cannot begin in one argument and end in the next, since every
argument is closed by a character that the marker does not have; so the pieces between markers are the
arguments as they were written, and each of them is cleaned back to its text, whatever commas, quotes and
parentheses that text may have.
-/

namespace Stepwise

namespace Text

theorem occurs_iff_infix {word cs : List Char} : occurs word cs = true ↔ word <:+: cs := by
  induction cs with
  | nil => simp [occurs]
  | cons c rest ih => simp [occurs, ih, List.infix_cons_iff]

/-- A word that lacks a character does not reach over it. -/
theorem not_prefix_append_cons {word xs : List Char} {c : Char} (apart : c ∉ word)
    (before : ¬ word <+: xs) (ys : List Char) : ¬ word <+: xs ++ c :: ys := by
  intro found
  have upto : xs ++ [c] <+: xs ++ c :: ys := ⟨ys, by simp⟩
  rcases List.prefix_or_prefix_of_prefix found upto with short | long
  · rcases List.prefix_concat_iff.mp short with rfl | short
    · exact apart (by simp)
    · exact before short
  · exact apart (long.subset (by simp))

theorem not_infix_append_cons {word xs ys : List Char} {c : Char} (apart : c ∉ word)
    (before : ¬ word <:+: xs) (after : ¬ word <:+: ys) : ¬ word <:+: xs ++ c :: ys := by
  have here : ¬ word <+: xs ++ c :: ys :=
    not_prefix_append_cons apart (fun found => before found.isInfix) ys
  induction xs with
  | nil =>
    rw [List.nil_append, List.infix_cons_iff]
    exact not_or.mpr ⟨here, after⟩
  | cons x xs ih =>
    have before' : ¬ word <:+: xs := fun inside => before (List.infix_cons inside)
    rw [List.cons_append, List.infix_cons_iff]
    exact not_or.mpr ⟨here,
      ih before' (not_prefix_append_cons apart (fun found => before' found.isInfix) ys)⟩

section

variable {sep : List Char}

theorem splitSkipping_eq (n : ℕ) (cs : List Char) :
    splitSkipping sep n cs = splitSkipping sep 0 (cs.drop n) := by
  induction n generalizing cs with
  | zero => rfl
  | succ n ih =>
    cases cs with
    | nil => rfl
    | cons c rest => exact ih rest

theorem splitOn_append_self (some : sep ≠ []) (rest : List Char) :
    splitOn sep (sep ++ rest) = [] :: splitOn sep rest := by
  obtain ⟨c, tail, rfl⟩ := List.exists_cons_of_ne_nil some
  have here : (c :: tail).isPrefixOf (c :: (tail ++ rest)) = true := by simp
  rw [List.cons_append, splitOn, splitSkipping, if_pos here, splitSkipping_eq]
  simp [splitOn]

theorem splitOn_cons {c : Char} {rest : List Char} (h : ¬ sep <+: c :: rest) :
    splitOn sep (c :: rest) = consHead c (splitOn sep rest) := by
  rw [splitOn, splitSkipping, if_neg (by simpa using h)]
  rfl

/-- A text without the word is one piece. -/
theorem splitOn_of_not_infix {cs : List Char} (free : ¬ sep <:+: cs) : splitOn sep cs = [cs] := by
  induction cs with
  | nil => rfl
  | cons c rest ih =>
    rw [List.infix_cons_iff, not_or] at free
    rw [splitOn_cons free.1, ih free.2]
    rfl

/-- A piece ends where the word comes first, if the word cannot begin in it. -/
theorem splitOn_append {piece : List Char} (free : ¬ sep <:+: piece)
    (closed : ∀ c ∈ piece.getLast?, c ∉ sep) (rest : List Char) :
    splitOn sep (piece ++ (sep ++ rest)) = piece :: splitOn sep rest := by
  have some : sep ≠ [] := by
    rintro rfl
    exact free List.nil_infix
  induction piece with
  | nil => exact splitOn_append_self some rest
  | cons c piece ih =>
    have later : ¬ sep <+: c :: (piece ++ (sep ++ rest)) := by
      intro found
      have whole : c :: piece <+: c :: (piece ++ (sep ++ rest)) := List.prefix_append _ _
      rcases List.prefix_or_prefix_of_prefix found whole with short | long
      · exact free short.isInfix
      · obtain ⟨d, last⟩ : ∃ d, (c :: piece).getLast? = Option.some d := ⟨_, List.getLast?_cons⟩
        exact closed d last (long.subset (List.mem_of_getLast? last))
    rw [List.infix_cons_iff, not_or] at free
    rw [List.cons_append, splitOn_cons later, ih free.2]
    · rfl
    · intro d last
      refine closed d ?_
      rw [List.getLast?_cons, last]
      rfl

end

end Text

/-- A text is bare if the marker does not occur in it. -/
theorem Call.isTagged_eq_false_iff {cs : List Char} : isTagged cs = false ↔ ¬ marker.toList <:+: cs := by
  rw [isTagged, ← Bool.not_eq_true, Text.occurs_iff_infix]

namespace Argument

/-- An argument as it stands after its marker, a text between two quote characters. -/
def body (quote : Char) : Argument → List Char
  | .literal s => quote :: s.toList ++ [quote]
  | .reference i => (Argument.reference i).text.toList

/-- An argument whose text does not hold the marker. -/
def Unmarked : Argument → Prop
  | .literal s => Call.isTagged s.toList = false
  | .reference _ => True

theorem unmarked_literal_iff {s : String} :
    (Argument.literal s).Unmarked ↔ ¬ Call.marker.toList <:+: s.toList :=
  Call.isTagged_eq_false_iff

/-- An argument that tagged notation can write: a text without the marker that is not read as a reference,
or a reference whose index is not too long. -/
def Plain : Argument → Prop
  | .literal s => Call.isTagged s.toList = false ∧ Call.referenceDigits? s.toList = none
  | .reference i => (Nat.toDigits 10 i).length ≤ Numeral.limit

theorem Plain.unmarked {a : Argument} (plain : a.Plain) : a.Unmarked := by
  cases a with
  | literal s => exact plain.1
  | reference i => trivial

end Argument

namespace Call

theorem tagged_eq (quote : Char) (a : Argument) : tagged quote a = marker.toList ++ a.body quote := by
  cases a <;> simp [tagged, Argument.body]

theorem ne_of_isQuote {q c : Char} (h : isQuote q = true) (other : isQuote c = false) : q ≠ c := by
  rintro rfl
  rw [h] at other
  cases other

theorem notMem_marker_of_isQuote {q : Char} (h : isQuote q = true) : q ∉ marker.toList := by
  have none : marker.toList.any isQuote = false := by decide
  exact fun member => List.any_eq_false.mp none q member h

theorem isBlank_of_isQuote {q : Char} (h : isQuote q = true) : Text.isBlank q = false := by
  simp only [isQuote, Bool.or_eq_true, beq_iff_eq] at h
  rcases h with (rfl | rfl) | rfl <;> decide

/-- A reference as it is written. -/
theorem toList_text_reference (i : ℕ) :
    (Argument.reference i).text.toList = outputsName.toList ++ '[' :: Nat.toDigits 10 i ++ [']'] := by
  simp [Argument.text]

section

variable {quote : Char} {a : Argument}

/-- What is written for an argument does not contain the marker, also with what separates it from the
next one. -/
theorem not_infix_body (quoted : isQuote quote = true) (unmarked : a.Unmarked) {ending : List Char}
    (free : ¬ marker.toList <:+: ending) : ¬ marker.toList <:+: a.body quote ++ ending := by
  cases a with
  | literal s =>
    have apart := notMem_marker_of_isQuote quoted
    have inside : ¬ marker.toList <:+: s.toList := Argument.unmarked_literal_iff.mp unmarked
    rw [Argument.body, List.append_assoc]
    have opened : ¬ marker.toList <:+: [] ++ quote :: (s.toList ++ quote :: ending) :=
      Text.not_infix_append_cons apart (by decide) (Text.not_infix_append_cons apart inside free)
    simpa using opened
  | reference i =>
    have inside : ¬ marker.toList <:+: outputsName.toList ++ '[' :: Nat.toDigits 10 i := by
      intro found
      have member := found.subset (show '@' ∈ marker.toList by decide)
      rw [List.mem_append, List.mem_cons] at member
      have digits := Numeral.notMem_toDigits (show Char.isDigit '@' = false by decide) i
      have name : '@' ∉ outputsName.toList := by decide
      have bracket : '@' ≠ '[' := by decide
      tauto
    rw [Argument.body, toList_text_reference, List.append_assoc]
    exact Text.not_infix_append_cons (by decide) inside free

/-- What is written for an argument begins and ends with characters of its notation. -/
theorem head?_body (quoted : isQuote quote = true) :
    ∃ c, Text.isBlank c = false ∧ (a.body quote).head? = some c := by
  cases a with
  | literal s => exact ⟨quote, isBlank_of_isQuote quoted, rfl⟩
  | reference i =>
    refine ⟨'o', by decide, ?_⟩
    rw [Argument.body, toList_text_reference]
    rfl

theorem getLast?_body (quoted : isQuote quote = true) :
    ∃ c ∉ marker.toList, c ≠ ',' ∧ Text.isBlank c = false ∧ (a.body quote).getLast? = some c := by
  cases a with
  | literal s =>
    exact ⟨quote, notMem_marker_of_isQuote quoted, ne_of_isQuote quoted (by decide),
      isBlank_of_isQuote quoted, List.getLast?_concat⟩
  | reference i =>
    refine ⟨']', by decide, by decide, by decide, ?_⟩
    rw [Argument.body, toList_text_reference, List.getLast?_concat]

/-- The text of an argument within its quotes. -/
theorem unquote_body (quoted : isQuote quote = true) : unquote (a.body quote) = a.text.toList := by
  cases a with
  | literal s =>
    obtain ⟨c, rest, rest_eq⟩ : ∃ c rest, s.toList ++ [quote] = c :: rest :=
      List.exists_cons_of_ne_nil (by simp)
    rw [Argument.body, List.cons_append, rest_eq, unquote, ← rest_eq]
    simp [quoted, Argument.text]
  | reference i =>
    rw [Argument.body, toList_text_reference]
    rfl

theorem takeWhile_digits (i : ℕ) : (Nat.toDigits 10 i ++ [']']).takeWhile Text.isDecimal =
    Nat.toDigits 10 i := by
  rw [List.takeWhile_append_of_pos fun c member => Numeral.isDecimal_of_isDigit (Numeral.isDigit_of_mem member)]
  simp [show Text.isDecimal ']' = false by decide]

theorem dropWhile_digits (i : ℕ) : (Nat.toDigits 10 i ++ [']']).dropWhile Text.isDecimal = [']'] := by
  rw [List.dropWhile_append_of_pos fun c member => Numeral.isDecimal_of_isDigit (Numeral.isDigit_of_mem member)]
  simp [show Text.isDecimal ']' = false by decide]

theorem toArgument_text (plain : a.Plain) : toArgument a.text.toList = .ok a := by
  cases a with
  | literal s =>
    have no_reference : referenceDigits? (Argument.literal s).text.toList = none := plain.2
    rw [toArgument, no_reference]
    simp [Argument.text]
  | reference i =>
    have written : Nat.toDigits 10 i ≠ [] := Nat.toDigits_ne_nil
    have digits : referenceDigits? (Argument.reference i).text.toList = some (Nat.toDigits 10 i) := by
      rw [toList_text_reference, List.append_cons, List.append_assoc, referenceDigits?]
      simp [takeWhile_digits, dropWhile_digits, written]
    rw [toArgument, digits]
    simp [Numeral.read_toDigits plain, Except.map]

theorem trim_body (quoted : isQuote quote = true) : Text.trim (a.body quote) = a.body quote := by
  obtain ⟨c, solid, first⟩ := head?_body (a := a) quoted
  obtain ⟨d, -, -, solid', last⟩ := getLast?_body (a := a) quoted
  rw [Text.trim_eq_self_iff, first, last]
  simp [solid, solid']

/-- An argument in front of another one is cleaned back to its text. -/
theorem clean_body_comma (quoted : isQuote quote = true) :
    clean (a.body quote ++ ", ".toList) = a.text.toList := by
  obtain ⟨c, solid, first⟩ := head?_body (a := a) quoted
  have trimmed : Text.trim (a.body quote ++ [',']) = a.body quote ++ [','] := by
    rw [Text.trim_eq_self_iff, List.getLast?_concat, List.head?_append, first]
    simp [solid, show Text.isBlank ',' = false by decide]
  -- Trimming takes the blank of the separator, and stops at its comma.
  have kept := (Text.trim_eq_self_iff.mp (trim_body (a := a) quoted)).2
  have blank : Text.trim ([] ++ (a.body quote ++ [',']) ++ [' ']) = Text.trim (a.body quote ++ [',']) :=
    Text.trim_append rfl rfl _
  have spaced : a.body quote ++ ", ".toList = [] ++ (a.body quote ++ [',']) ++ [' '] := by simp
  rw [clean, spaced, blank, trimmed, dropComma, List.getLast?_concat, if_pos rfl, List.dropLast_concat,
    Text.trimEnd_eq_self_iff.mpr kept, unquote_body quoted]

/-- And so is the last one. -/
theorem clean_body (quoted : isQuote quote = true) : clean (a.body quote) = a.text.toList := by
  obtain ⟨d, -, other, -, last⟩ := getLast?_body (a := a) quoted
  rw [clean, trim_body quoted, dropComma, last, if_neg (by simpa using other), unquote_body quoted]

end

/-- Arguments, each with the character that quotes it if it is a text. -/
abbrev Quoting := List (Char × Argument)

/-- An argument list in tagged notation. -/
def taggedList (args : Quoting) : List Char :=
  Text.join ", ".toList (args.map fun p => tagged p.1 p.2)

/-- The pieces between markers: what is written for each argument, with what separates it from the next. -/
def bodies : Quoting → List (List Char)
  | [] => []
  | [p] => [p.2.body p.1]
  | p :: q :: args => (p.2.body p.1 ++ ", ".toList) :: bodies (q :: args)

/-- Arguments that are told apart by the marker: none of them holds it, and texts stand in quotes. -/
def Separable (args : Quoting) : Prop := ∀ p ∈ args, isQuote p.1 = true ∧ p.2.Unmarked

/-- Whether an argument list can be written. -/
def Writable (args : Quoting) : Prop := ∀ p ∈ args, isQuote p.1 = true ∧ p.2.Plain

theorem Writable.separable {args : Quoting} (writable : Writable args) : Separable args :=
  fun p member => ⟨(writable p member).1, (writable p member).2.unmarked⟩

theorem taggedList_cons (p q : Char × Argument) (args : Quoting) :
    taggedList (p :: q :: args) =
      marker.toList ++ (p.2.body p.1 ++ ", ".toList ++ taggedList (q :: args)) := by
  simp [taggedList, Text.join, tagged_eq]

theorem exists_taggedList_cons (p : Char × Argument) (args : Quoting) :
    ∃ rest, taggedList (p :: args) = marker.toList ++ rest := by
  cases args with
  | nil => exact ⟨_, tagged_eq p.1 p.2⟩
  | cons q args => exact ⟨_, taggedList_cons p q args⟩

/-- Behind the first marker, the pieces are those of the arguments. -/
theorem splitOn_taggedList (p : Char × Argument) (args : Quoting) (separable : Separable (p :: args)) :
    Text.splitOn marker.toList (taggedList (p :: args)) = [] :: bodies (p :: args) := by
  have begun : marker.toList ≠ [] := by decide
  obtain ⟨quoted, unmarked⟩ := separable p List.mem_cons_self
  -- By induction on the arguments. No marker lies across two pieces, since a piece ends in a blank.
  induction args generalizing p with
  | nil =>
    have free : ¬ marker.toList <:+: p.2.body p.1 ++ [] := not_infix_body quoted unmarked (by decide)
    rw [List.append_nil] at free
    rw [taggedList, List.map_singleton, Text.join, tagged_eq, Text.splitOn_append_self begun,
      Text.splitOn_of_not_infix free]
    rfl
  | cons q args ih =>
    have free : ¬ marker.toList <:+: p.2.body p.1 ++ ", ".toList :=
      not_infix_body quoted unmarked (by decide)
    have closed : ∀ c ∈ (p.2.body p.1 ++ ", ".toList).getLast?, c ∉ marker.toList := by
      intro c last
      have space : (p.2.body p.1 ++ ", ".toList).getLast? = some ' ' := by simp
      rw [space] at last
      cases last
      decide
    have separable' : Separable (q :: args) := fun r member => separable r (List.mem_cons_of_mem _ member)
    have later := ih q separable' (separable' q List.mem_cons_self).1 (separable' q List.mem_cons_self).2
    obtain ⟨rest, rest_eq⟩ := exists_taggedList_cons q args
    rw [rest_eq, Text.splitOn_append_self begun, List.cons.injEq] at later
    rw [taggedList_cons, Text.splitOn_append_self begun, rest_eq, Text.splitOn_append free closed, later.2]
    rfl

/-- The pieces are cleaned back to the texts of the arguments. -/
theorem map_clean_bodies {args : Quoting} (quoted : ∀ p ∈ args, isQuote p.1 = true) :
    (bodies args).map clean = args.map (·.2.text.toList) := by
  induction args with
  | nil => rfl
  | cons p args ih =>
    rw [List.forall_mem_cons] at quoted
    cases args with
    | nil => simp [bodies, clean_body quoted.1]
    | cons q args =>
      rw [bodies, List.map_cons, clean_body_comma quoted.1, ih quoted.2]
      rfl

/-- The pieces of an argument list in tagged notation, cleaned, are the texts of the arguments. -/
theorem map_clean_pieces_taggedList {args : Quoting} (separable : Separable args) :
    (pieces (taggedList args)).map clean = args.map (·.2.text.toList) := by
  cases args with
  | nil => rfl
  | cons p args =>
    obtain ⟨rest, rest_eq⟩ := exists_taggedList_cons p args
    have solid : (taggedList (p :: args)).all Text.isBlank = false := by
      rw [rest_eq]
      rfl
    have marked : isTagged (taggedList (p :: args)) = true := by
      rw [isTagged, Text.occurs_iff_infix, rest_eq]
      exact (List.prefix_append _ _).isInfix
    rw [pieces, solid, marked, splitTagged, splitOn_taggedList p args separable]
    exact map_clean_bodies fun q member => (separable q member).1

theorem arguments_eq_mapM (cs : List Char) : arguments cs = ((pieces cs).map clean).mapM toArgument := by
  rw [List.mapM_map]
  rfl

theorem mapM_toArgument_text {as : List Argument} (plain : ∀ a ∈ as, a.Plain) :
    (as.map (·.text.toList)).mapM toArgument = .ok as := by
  induction as with
  | nil => rfl
  | cons a as ih =>
    rw [List.forall_mem_cons] at plain
    rw [List.map_cons, List.mapM_cons, toArgument_text plain.1, ih plain.2]
    rfl

/-- Reading an argument list in tagged notation gives the arguments back. -/
theorem arguments_taggedList {args : Quoting} (writable : Writable args) :
    arguments (taggedList args) = .ok (args.map (·.2)) := by
  have plain : ∀ a ∈ args.map (·.2), a.Plain := by
    intro a member
    obtain ⟨p, argument, rfl⟩ := List.mem_map.mp member
    exact (writable p argument).2
  have read := mapM_toArgument_text plain
  rw [List.map_map] at read
  rw [arguments_eq_mapM, map_clean_pieces_taggedList writable.separable]
  exact read

/-- A name space that can be written in front of a function name. -/
structure SpaceName (space : String) : Prop where
  ne_nil : space.toList ≠ []
  trimmed : Text.trim space.toList = space.toList
  opening : '(' ∉ space.toList
  await : ¬ "await ".toList <+: space.toList

/-- A function name that can be written behind a name space. -/
structure FunctionName (function : String) : Prop where
  ne_nil : function.toList ≠ []
  trimmed : Text.trim function.toList = function.toList
  dot : '.' ∉ function.toList
  opening : '(' ∉ function.toList

/-- A call as it is written, with an argument list between its parentheses. -/
def writtenCall (space function : String) (inside : List Char) : List Char :=
  space.toList ++ '.' :: function.toList ++ '(' :: inside ++ [')']

/-- A call as it is written in tagged notation. -/
def taggedText (space function : String) (args : Quoting) : List Char :=
  space.toList ++ '.' :: function.toList ++ '(' :: taggedList args ++ [')']

section

variable {space function : String} {args : Quoting}

/-- The callee of a call, as it is written. -/
theorem splitCallee_written (named : SpaceName space) (named' : FunctionName function) :
    splitCallee (dropAwait (Text.trim (space.toList ++ '.' :: function.toList))) =
      (space.toList, function.toList) := by
  have start := (Text.trim_eq_self_iff.mp named.trimmed).1
  have last := (Text.trim_eq_self_iff.mp named'.trimmed).2
  obtain ⟨first, rest, space_eq⟩ := List.exists_cons_of_ne_nil named.ne_nil
  obtain ⟨final, final_eq⟩ : ∃ d, function.toList.getLast? = some d :=
    ⟨_, List.getLast?_eq_some_getLast named'.ne_nil⟩
  have trimmed : Text.trim (space.toList ++ '.' :: function.toList) =
      space.toList ++ '.' :: function.toList := by
    rw [Text.trim_eq_self_iff]
    constructor
    · simpa [space_eq] using start
    · simpa [List.getLast?_append, List.getLast?_cons, final_eq] using last
  have no_await : ¬ "await ".toList <+: space.toList ++ '.' :: function.toList :=
    Text.not_prefix_append_cons (by decide) named.await _
  rw [trimmed, dropAwait, if_neg (by simpa using no_await), splitCallee,
    Text.cutLast_append _ named'.dot]
  simp [named.trimmed, named'.trimmed]

/-- A written call is read as the call of its function with the arguments of its argument list, whatever blanks
stand around it. -/
theorem read_writtenCall (named : SpaceName space) (named' : FunctionName function) {inside : List Char}
    {as : List Argument} (taken : arguments inside = .ok as) (root : String) {bs bs' : List Char}
    (blank : bs.all Text.isBlank = true) (blank' : bs'.all Text.isBlank = true) :
    read root (bs ++ writtenCall space function inside ++ bs') = .ok ⟨space, function, as⟩ := by
  have start := (Text.trim_eq_self_iff.mp named.trimmed).1
  obtain ⟨first, rest, space_eq⟩ := List.exists_cons_of_ne_nil named.ne_nil
  have text : writtenCall space function inside =
      (space.toList ++ '.' :: function.toList) ++ '(' :: (inside ++ [')']) := by
    simp [writtenCall]
  have trimmed : Text.trim (writtenCall space function inside) = writtenCall space function inside := by
    rw [Text.trim_eq_self_iff, text]
    constructor
    · simpa [space_eq] using start
    · simp [List.getLast?_append, List.getLast?_cons, show Text.isBlank ')' = false by decide]
  have no_open : '(' ∉ space.toList ++ '.' :: function.toList := by
    simp [named.opening, named'.opening]
  have closing : ')' ∉ ([] : List Char) := List.not_mem_nil
  have space_some : space.toList.isEmpty = false := by simpa using named.ne_nil
  have function_some : function.toList.isEmpty = false := by simpa using named'.ne_nil
  rw [read, Text.trim_append blank blank', trimmed, text, Text.cutFirst_append no_open]
  simp only [Text.cutLast_append _ closing, splitCallee_written named named', taken, space_some, function_some,
    String.ofList_toList]
  rfl

/-- Reading a call in tagged notation gives the call back, whatever blanks stand around it. -/
theorem read_taggedText (named : SpaceName space) (named' : FunctionName function)
    (writable : Writable args) (root : String) {bs bs' : List Char} (blank : bs.all Text.isBlank = true)
    (blank' : bs'.all Text.isBlank = true) :
    read root (bs ++ taggedText space function args ++ bs') = .ok ⟨space, function, args.map (·.2)⟩ :=
  read_writtenCall named named' (arguments_taggedList writable) root blank blank'

end

/-- A call is read from its text as it was. -/
theorem parse_render {c : Call} (named : SpaceName c.space) (named' : FunctionName c.function)
    (plain : ∀ a ∈ c.args, a.Plain) (root : String) : parse root c.render = .ok c := by
  have writable : Writable (c.args.map fun a => ('"', a)) := by
    intro p member
    obtain ⟨a, argument, rfl⟩ := List.mem_map.mp member
    exact ⟨rfl, plain a argument⟩
  have text : c.render.toList = [] ++ taggedText c.space c.function (c.args.map fun a => ('"', a)) ++ [] := by
    simp [render, taggedText, taggedList, Function.comp_def]
  rw [parse, text, read_taggedText named named' writable root rfl rfl]
  simp [Function.comp_def]

end Call

end Stepwise
