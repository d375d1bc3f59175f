import Mathlib.Data.List.Basic
import Stepwise.Proofs.TaggedCalls

/-!
What reading a call comes to. A text that has the form of a reference is one, in quotes or not; every other text
stands for itself. So a call in tagged notation is read back as it was written, and every text is read as a call
or lacks a part of one, unless the index of a reference has more digits than a numeral may have.
-/

namespace Stepwise.Call

/-- The form of a reference: the name of the outputs, and decimal digits in brackets. A line feed may follow. -/
def HasReferenceForm (digits cs : List Char) : Prop :=
  digits ≠ [] ∧ (∀ c ∈ digits, Text.isDecimal c = true) ∧
    ∃ ending ∈ [[']'], [']', '\n']], cs = outputsName.toList ++ '[' :: digits ++ ending

theorem referenceDigits?_eq_some_iff {digits cs : List Char} :
    referenceDigits? cs = some digits ↔ HasReferenceForm digits cs := by
  constructor
  · intro found
    unfold referenceDigits? at found
    simp only at found
    split at found
    next opened =>
      obtain ⟨tail, rfl⟩ := List.isPrefixOf_iff_prefix.mp opened
      rw [List.drop_left] at found
      split at found
      next closed =>
        cases found
        simp only [Bool.and_eq_true, Bool.not_eq_true', List.isEmpty_eq_false_iff, Bool.or_eq_true,
          beq_iff_eq] at closed
        refine ⟨closed.1, List.all_eq_true.mp List.all_takeWhile, tail.dropWhile Text.isDecimal,
          by simpa using closed.2, ?_⟩
        simp [List.takeWhile_append_dropWhile]
      · cases found
    · cases found
  · rintro ⟨some, decimal, ending, closing, rfl⟩
    have stops : ∀ c ∈ ending.head?, Text.isDecimal c = false := by
      intro c first
      simp only [List.mem_cons, List.not_mem_nil, or_false] at closing
      rcases closing with rfl | rfl <;> cases first <;> decide
    have run : (digits ++ ending).takeWhile Text.isDecimal = digits ∧
        (digits ++ ending).dropWhile Text.isDecimal = ending := by
      rw [List.takeWhile_append_of_pos decimal, List.dropWhile_append_of_pos decimal]
      cases ending with
      | nil => simp
      | cons c ending => simp [stops c rfl]
    have text : outputsName.toList ++ '[' :: digits ++ ending =
        (outputsName.toList ++ ['[']) ++ (digits ++ ending) := by simp
    have closed : (ending == [']'] || ending == [']', '\n']) = true := by simpa using closing
    rw [text, referenceDigits?]
    simp only [List.drop_left, run, closed, List.isPrefixOf_iff_prefix.mpr (List.prefix_append _ _)]
    simp [some]

/-- A text that has not the form of a reference. -/
theorem referenceDigits?_eq_none_iff {cs : List Char} :
    referenceDigits? cs = none ↔ ∀ digits, ¬ HasReferenceForm digits cs := by
  rw [Option.eq_none_iff_forall_ne_some]
  exact forall_congr' fun digits => not_congr referenceDigits?_eq_some_iff

/-- A call in tagged notation is read back as it was written. Its texts may hold anything but a whole marker, and
stand in any quotes, their own ones included. -/
theorem parse_tagged {space function : String} (named : SpaceName space) (named' : FunctionName function)
    (args : Quoting) (quoted : ∀ p ∈ args, isQuote p.1 = true)
    (free : ∀ p ∈ args, ∀ s, p.2 = .literal s →
      ¬ marker.toList <:+: s.toList ∧ ∀ digits, ¬ HasReferenceForm digits s.toList)
    (short : ∀ p ∈ args, ∀ i, p.2 = .reference i → (Nat.toDigits 10 i).length ≤ Numeral.limit)
    (root : String) {before after : String} (blank : Text.isBlankText before = true)
    (blank' : Text.isBlankText after = true) :
    parse root (before ++ space ++ "." ++ function ++ "(" ++
        String.ofList (Text.join ", ".toList (args.map fun p => tagged p.1 p.2)) ++ ")" ++ after) =
      .ok ⟨space, function, args.map (·.2)⟩ := by
  have writable : Writable args := by
    rintro ⟨quote, a⟩ member
    refine ⟨quoted _ member, ?_⟩
    cases a with
    | literal s =>
      obtain ⟨unmarked, no_reference⟩ := free _ member s rfl
      refine ⟨?_, referenceDigits?_eq_none_iff.mpr no_reference⟩
      rwa [isTagged, ← Bool.not_eq_true, Text.occurs_iff_infix]
    | reference i => exact short _ member i rfl
  have read := read_taggedText named named' writable root blank blank'
  rw [parse, ← read]
  congr 1
  simp [taggedText, taggedList]

/-- Arguments that look like the ends of calls, of texts and of markers. -/
def hostileArguments : Quoting :=
  [('\'', .literal "it's, \"x\")"), ('\x60', .literal "@@ai-arg@\x60\n"), ('"', .reference 10),
    ('"', .literal "\\\",")]

theorem parse_tagged_hostile :
    SpaceName "a.b" ∧ FunctionName "f" ∧ (∀ p ∈ hostileArguments, isQuote p.1 = true) ∧
      parse defaultSpace ("\n a.b.f(@@ai-arg@@'it's, \"x\")', @@ai-arg@@\x60@@ai-arg@\x60\n\x60, " ++
        "@@ai-arg@@outputList[10], @@ai-arg@@\"\\\",\")\u3000") =
        .ok ⟨"a.b", "f", hostileArguments.map (·.2)⟩ := by
  have named : SpaceName "a.b" := ⟨by decide, by decide, by decide, by decide⟩
  have named' : FunctionName "f" := ⟨by decide, by decide, by decide, by decide⟩
  have quoted : ∀ p ∈ hostileArguments, isQuote p.1 = true := by decide
  have free : ∀ p ∈ hostileArguments, ∀ s, p.2 = .literal s →
      ¬ marker.toList <:+: s.toList ∧ ∀ digits, ¬ HasReferenceForm digits s.toList := by
    intro p member s literal
    simp only [hostileArguments, List.mem_cons, List.not_mem_nil, or_false] at member
    rw [← Text.occurs_iff_infix, ← referenceDigits?_eq_none_iff]
    rcases member with rfl | rfl | rfl | rfl <;> cases literal <;> decide
  have short : ∀ p ∈ hostileArguments, ∀ i, p.2 = .reference i →
      (Nat.toDigits 10 i).length ≤ Numeral.limit := by
    intro p member i reference
    simp only [hostileArguments, List.mem_cons, List.not_mem_nil, or_false] at member
    rcases member with rfl | rfl | rfl | rfl <;> cases reference
    exact Nat.le_of_ble_eq_true rfl
  have blank : Text.isBlankText "\n " = true := by decide
  have blank' : Text.isBlankText "\u3000" = true := by decide
  refine ⟨named, named', quoted, ?_⟩
  rw [← parse_tagged named named' hostileArguments quoted free short defaultSpace blank blank']
  rfl

/-- Working through a list fails with the fault of the first item that fails. -/
theorem mapM_eq_error_iff {α β ε : Type} {f : α → Except ε β} {xs : List α} {fault : ε} :
    xs.mapM f = .error fault ↔
      ∃ earlier x later, xs = earlier ++ x :: later ∧ (∀ y ∈ earlier, ∃ b, f y = .ok b) ∧
        f x = .error fault := by
  constructor
  · intro failed
    induction xs with
    | nil => cases failed
    | cons x xs ih =>
      rw [List.mapM_cons] at failed
      cases here : f x with
      | error other =>
        rw [here] at failed
        cases failed
        exact ⟨[], x, xs, rfl, by simp, here⟩
      | ok b =>
        rw [here] at failed
        cases later : xs.mapM f with
        | ok bs =>
          rw [later] at failed
          cases failed
        | error other =>
          rw [later] at failed
          cases failed
          obtain ⟨earlier, y, rest, rfl, fine, refused⟩ := ih later
          refine ⟨x :: earlier, y, rest, rfl, ?_, refused⟩
          rw [List.forall_mem_cons]
          exact ⟨⟨b, here⟩, fine⟩
  · rintro ⟨earlier, x, later, rfl, fine, refused⟩
    induction earlier with
    | nil =>
      rw [List.nil_append, List.mapM_cons, refused]
      rfl
    | cons y earlier ih =>
      rw [List.forall_mem_cons] at fine
      obtain ⟨⟨b, here⟩, fine⟩ := fine
      rw [List.cons_append, List.mapM_cons, here, ih fine]
      rfl

/-- A piece that is a reference whose index has too many digits. -/
def IsOverlong (digits : ℕ) (piece : List Char) : Prop :=
  ∃ ds, HasReferenceForm ds (clean piece) ∧ ds.length = digits ∧ Numeral.limit < digits

theorem toArgument_clean_eq_error_iff {piece : List Char} {o : Overlong} :
    toArgument (clean piece) = .error o ↔ IsOverlong o.digits piece := by
  unfold toArgument IsOverlong
  simp only [← referenceDigits?_eq_some_iff]
  cases reference : referenceDigits? (clean piece) with
  | none => simp
  | some ds =>
    by_cases long : Numeral.limit < ds.length
    · have refused : (Numeral.read ds).map Argument.reference = .error ⟨ds.length⟩ := by
        rw [Numeral.read, if_pos long]
        rfl
      simp only [refused, Except.error.injEq, Option.some.injEq]
      constructor
      · rintro rfl
        exact ⟨ds, rfl, rfl, long⟩
      · rintro ⟨_, rfl, same, -⟩
        rw [same]
    · have taken : (Numeral.read ds).map Argument.reference = .ok (.reference (Text.numeral ds)) := by
        rw [Numeral.read, if_neg long]
        rfl
      simp only [taken, reduceCtorEq, Option.some.injEq, false_iff]
      rintro ⟨_, rfl, same, long'⟩
      exact long (same ▸ long')

/-- The arguments fail with the first of their pieces that is too long a reference. -/
theorem arguments_eq_error_iff {cs : List Char} {o : Overlong} :
    arguments cs = .error o ↔
      ∃ earlier piece later, pieces cs = earlier ++ piece :: later ∧
        (∀ p ∈ earlier, ∀ n, ¬ IsOverlong n p) ∧ IsOverlong o.digits piece := by
  have fine : ∀ p, (∃ a, toArgument (clean p) = .ok a) ↔ ∀ n, ¬ IsOverlong n p := by
    intro p
    constructor
    · rintro ⟨a, ok⟩ n long
      have refused := toArgument_clean_eq_error_iff (o := ⟨n⟩) |>.mpr long
      rw [ok] at refused
      cases refused
    · intro short
      cases result : toArgument (clean p) with
      | ok a => exact ⟨a, rfl⟩
      | error o => exact absurd (toArgument_clean_eq_error_iff.mp result) (short o.digits)
  rw [arguments, mapM_eq_error_iff]
  simp only [fine, toArgument_clean_eq_error_iff]

/-- The parts of a text between its first opening and its last closing parenthesis, and on both sides. -/
structure Parts (cs before inside after : List Char) : Prop where
  text : Text.trim cs = before ++ '(' :: (inside ++ ')' :: after)
  opening : '(' ∉ before
  closing : ')' ∉ after

/-- The name of the function in front of the parentheses. -/
def functionIn (before : List Char) : List Char := (splitCallee (dropAwait (Text.trim before))).2

section

variable {cs : List Char}

theorem read_of_parts (root : String) {before inside after : List Char} (h : Parts cs before inside after) :
    read root cs = .error .noName ∧ functionIn before = [] ∨
      functionIn before ≠ [] ∧
        ((∃ c, read root cs = .ok c ∧ arguments inside = .ok c.args) ∨
          ∃ o, read root cs = .error (.overlong o) ∧ arguments inside = .error o) := by
  unfold read functionIn
  simp only [h.text, Text.cutFirst_append h.opening, Text.cutLast_append inside h.closing]
  by_cases named : (splitCallee (dropAwait (Text.trim before))).2 = []
  · exact .inl ⟨by simp [named], named⟩
  · refine .inr ⟨named, ?_⟩
    rw [if_neg (by simpa using named)]
    cases arguments inside with
    | ok args => exact .inl ⟨_, rfl, rfl⟩
    | error o => exact .inr ⟨o, rfl, rfl⟩

/-- A text without parentheses around anything is refused. -/
theorem read_cases (root : String) (cs : List Char) :
    read root cs = .error .noOpening ∨ read root cs = .error .noClosing ∨
      ∃ before inside after, Parts cs before inside after := by
  cases opened : Text.cutFirst '(' (Text.trim cs) with
  | none => exact .inl (by rw [read, opened])
  | some p =>
    obtain ⟨before, tail⟩ := p
    obtain ⟨text, opening⟩ := Text.eq_of_cutFirst opened
    cases closed : Text.cutLast ')' tail with
    | none => exact .inr (.inl (by rw [read, opened]; simp only [closed]))
    | some q =>
      obtain ⟨inside, after⟩ := q
      obtain ⟨rfl, closing⟩ := Text.eq_of_cutLast closed
      exact .inr (.inr ⟨before, inside, after, text, opening, closing⟩)

end

/-- A text is answered if it is a call, or if it is told which part of a call it lacks. -/
def Answered (r : Except Refusal Call) : Prop :=
  (∃ c, r = .ok c) ∨ r = .error .noOpening ∨ r = .error .noClosing ∨ r = .error .noName

/-- The text of a call the first of whose overlong references has an index of so many digits. -/
def LongReference (cs : List Char) (digits : ℕ) : Prop :=
  ∃ before inside after, Parts cs before inside after ∧ functionIn before ≠ [] ∧
    ∃ earlier piece later, pieces inside = earlier ++ piece :: later ∧
      (∀ p ∈ earlier, ∀ n, ¬ IsOverlong n p) ∧ IsOverlong digits piece

theorem read_eq_overlong_iff {root : String} {cs : List Char} {o : Overlong} :
    read root cs = .error (.overlong o) ↔ LongReference cs o.digits := by
  constructor
  · intro refused
    rcases read_cases root cs with none | none | ⟨before, inside, after, parts⟩
    · rw [none] at refused
      cases refused
    · rw [none] at refused
      cases refused
    · rcases read_of_parts root parts with ⟨none, -⟩ | ⟨named, ⟨c, ok, -⟩ | ⟨o', failed, long⟩⟩
      · rw [none] at refused
        cases refused
      · rw [ok] at refused
        cases refused
      · rw [failed] at refused
        cases refused
        exact ⟨before, inside, after, parts, named, arguments_eq_error_iff.mp long⟩
  · rintro ⟨before, inside, after, parts, named, long⟩
    have failing := arguments_eq_error_iff.mpr long
    rcases read_of_parts root parts with ⟨-, none⟩ | ⟨-, ⟨c, -, ok⟩ | ⟨o', failed, other⟩⟩
    · exact absurd none named
    · rw [failing] at ok
      cases ok
    · rw [failing] at other
      cases other
      exact failed

/-- Every text is answered unless it calls a function with a reference whose index is overlong, and then the
length of that index is what is wrong. -/
theorem parse_answered_iff (root s : String) :
    (Answered (parse root s) ↔ ∀ digits, ¬ LongReference s.toList digits) ∧
      ∀ o, parse root s = .error (.overlong o) ↔ LongReference s.toList o.digits := by
  refine ⟨?_, fun o => read_eq_overlong_iff⟩
  constructor
  · intro answered digits long
    have refused : parse root s = .error (.overlong ⟨digits⟩) := read_eq_overlong_iff.mpr long
    rw [refused] at answered
    simp [Answered] at answered
  · intro short
    rcases read_cases root s.toList with none | none | ⟨before, inside, after, parts⟩
    · exact .inr (.inl none)
    · exact .inr (.inr (.inl none))
    · rcases read_of_parts root parts with ⟨none, -⟩ | ⟨-, ⟨c, ok, -⟩ | ⟨o, failed, -⟩⟩
      · exact .inr (.inr (.inr none))
      · exact .inl ⟨c, ok⟩
      · exact absurd (read_eq_overlong_iff.mp failed) (short o.digits)

/-- A text without quotes and commas is one piece. -/
theorem splitBare_of_plain {cs : List Char} (plain : ∀ c ∈ cs, isQuote c = false ∧ c ≠ ',') :
    splitBare cs = [cs] := by
  unfold splitBare
  induction cs with
  | nil => rfl
  | cons c cs ih =>
    rw [List.forall_mem_cons] at plain
    obtain ⟨⟨unquoted, other⟩, plain⟩ := plain
    rw [cut, if_neg (fun comma => other comma.2), Mode.next, unquoted, if_neg Bool.false_ne_true, ih plain]
    rfl

/-- A reference as it is written in a plan, with any digits. -/
def referenceText (digits : List Char) : List Char := outputsName.toList ++ '[' :: digits ++ [']']

section

variable {digits : List Char} (written : ∀ c ∈ digits, c.isDigit = true)

include written

theorem mem_referenceText {c : Char} (member : c ∈ referenceText digits) :
    c ∈ "outputList[]".toList ∨ c.isDigit = true := by
  simp only [referenceText, List.mem_append, List.mem_cons, List.not_mem_nil, or_false] at member
  rcases member with ((name | rfl | digit) | rfl)
  · exact .inl (List.mem_append_left "[]".toList name)
  · exact .inl (by decide)
  · exact .inr (written c digit)
  · exact .inl (by decide)

theorem notMem_referenceText {c : Char} (name : c ∉ "outputList[]".toList) (digit : c.isDigit = false) :
    c ∉ referenceText digits := by
  intro member
  rcases mem_referenceText written member with inside | digit'
  · exact name inside
  · rw [digit] at digit'
    cases digit'

/-- A reference is an argument list of its own. -/
theorem pieces_referenceText : pieces (referenceText digits) = [referenceText digits] := by
  have solid : (referenceText digits).all Text.isBlank = false := rfl
  have unmarked : isTagged (referenceText digits) = false := by
    rw [isTagged_eq_false_iff]
    intro marked
    exact notMem_referenceText written (by decide) (by decide) (marked.subset (show '@' ∈ marker.toList by decide))
  rw [pieces, solid, unmarked]
  refine splitBare_of_plain fun c member => ⟨?_, ?_⟩
  · by_contra quoted
    simp only [isQuote, Bool.or_eq_false_iff, beq_eq_false_iff_ne, not_and_or, not_not] at quoted
    rcases quoted with (rfl | rfl) | rfl <;>
      exact notMem_referenceText written (by decide) (by decide) member
  · rintro rfl
    exact notMem_referenceText written (by decide) (by decide) member

end

theorem clean_referenceText (digits : List Char) : clean (referenceText digits) = referenceText digits := by
  have last : (referenceText digits).getLast? = some ']' := List.getLast?_concat
  have trimmed : Text.trim (referenceText digits) = referenceText digits := by
    rw [Text.trim_eq_self_iff, last]
    constructor
    · rintro c ⟨⟩
      decide
    · rintro c ⟨⟩
      decide
  rw [clean, trimmed, dropComma, last]
  rfl

/-- A call with one reference whose index is overlong. -/
theorem longReference_of_digits {digits : List Char} (written : ∀ c ∈ digits, c.isDigit = true)
    (long : Numeral.limit < digits.length) :
    LongReference ('f' :: '(' :: (referenceText digits ++ [')'])) digits.length := by
  have some : digits ≠ [] := by
    rintro rfl
    cases long
  have form : HasReferenceForm digits (referenceText digits) :=
    ⟨some, fun c member => Numeral.isDecimal_of_isDigit (written c member), [']'], by simp, rfl⟩
  refine ⟨['f'], referenceText digits, [], ⟨?_, by decide, List.not_mem_nil⟩, by decide, [],
    referenceText digits, [], pieces_referenceText written, by simp, digits,
    (clean_referenceText digits).symm ▸ form, rfl, long⟩
  have trimmed : Text.trim ('f' :: '(' :: (referenceText digits ++ [')'])) =
      'f' :: '(' :: (referenceText digits ++ [')']) := by
    rw [Text.trim_eq_self_iff]
    constructor
    · rintro c ⟨⟩
      decide
    · simp [List.getLast?_cons, show Text.isBlank ')' = false by decide]
  rw [trimmed]
  rfl

theorem not_answered_of_digits (root : String) {digits : List Char} (written : ∀ c ∈ digits, c.isDigit = true)
    (long : Numeral.limit < digits.length) :
    ¬ Answered (parse root ("f(outputList[" ++ String.ofList digits ++ "])")) := by
  have text : ("f(outputList[" ++ String.ofList digits ++ "])").toList =
      'f' :: '(' :: (referenceText digits ++ [')']) := by simp [referenceText, outputsName]
  have refused : read root ('f' :: '(' :: (referenceText digits ++ [')'])) =
      .error (.overlong ⟨digits.length⟩) :=
    read_eq_overlong_iff.mpr (longReference_of_digits written long)
  rw [parse, text, refused]
  simp [Answered]

/-- Even zero is no index when it is written with too many digits. -/
theorem endless_zero_unanswered :
    ¬ Answered (parse defaultSpace ("f(outputList[" ++ String.ofList (List.replicate 4301 '0') ++ "])")) := by
  refine not_answered_of_digits defaultSpace (fun c member => ?_) ?_
  · rw [List.eq_of_mem_replicate member]
    rfl
  · rw [List.length_replicate]
    exact Nat.le_of_ble_eq_true rfl

end Stepwise.Call
