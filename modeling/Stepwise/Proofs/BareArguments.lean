import Stepwise.Proofs.References

/-!
Argument lists in bare notation. Such a list is cut at the commas that stand outside quotes, and nowhere else: its
pieces with commas between them are the list again, none of them has such a comma, and each but the last closes the
quotes that it opens. A text in quotes is no place to cut, whatever commas and other quote characters it has, if it
has neither the quote that it stands in nor a backslash; so texts that were joined are cut apart where they were
joined, and they are the same arguments as in tagged notation.
-/

namespace Stepwise.Call

/-- The mode of a scan behind a text. -/
def Mode.after (m : Mode) (cs : List Char) : Mode := cs.foldl Mode.next m

/-- A scan that starts in the mode meets no comma outside quotes. -/
def Uncut : Mode → List Char → Prop
  | _, [] => True
  | m, c :: rest => ¬ (m = .outside ∧ c = ',') ∧ Uncut (m.next c) rest

theorem Mode.after_cons (m : Mode) (c : Char) (cs : List Char) : m.after (c :: cs) = (m.next c).after cs := rfl

theorem Mode.after_append (m : Mode) (xs ys : List Char) : m.after (xs ++ ys) = (m.after xs).after ys :=
  List.foldl_append

theorem uncut_append {m : Mode} {xs ys : List Char} (first : Uncut m xs) (next : Uncut (m.after xs) ys) :
    Uncut m (xs ++ ys) := by
  induction xs generalizing m with
  | nil => exact next
  | cons c xs ih => exact ⟨first.1, ih first.2 next⟩

/-- A text without such a comma goes into one piece, with what comes behind it up to the next place to cut. -/
theorem cut_append {m : Mode} {text : List Char} (uncut : Uncut m text) {rest p : List Char} {ps : List (List Char)}
    (behind : cut (m.after text) rest = p :: ps) : cut m (text ++ rest) = (text ++ p) :: ps := by
  induction text generalizing m with
  | nil => exact behind
  | cons c text ih =>
    obtain ⟨here, later⟩ := uncut
    rw [List.cons_append, cut, if_neg here, ih later behind]
    rfl

theorem cut_of_uncut {m : Mode} {text : List Char} (uncut : Uncut m text) : cut m text = [text] := by
  have nothing : cut (m.after text) [] = [] :: [] := by rw [cut]
  have piece := cut_append uncut nothing
  rwa [List.append_nil] at piece

/-- Behind a text that leaves the scan outside quotes, a comma ends the piece. -/
theorem cut_separated {m : Mode} {text : List Char} (uncut : Uncut m text) (after : m.after text = .outside)
    (rest : List Char) : cut m (text ++ ',' :: rest) = text :: cut .outside rest := by
  have comma : cut (m.after text) (',' :: rest) = [] :: cut .outside rest := by
    rw [after, cut, if_pos ⟨rfl, rfl⟩]
  have piece := cut_append uncut comma
  rwa [List.append_nil] at piece

theorem cut_ne_nil (m : Mode) (cs : List Char) : cut m cs ≠ [] := by
  cases cs with
  | nil => simp [cut]
  | cons c rest =>
    rw [cut]
    split
    · exact List.cons_ne_nil _ _
    · exact Text.consHead_ne_nil _ _

/-- Nothing but commas is lost between the pieces of an argument list without markers. -/
theorem join_cut (m : Mode) (cs : List Char) : Text.join [','] (cut m cs) = cs := by
  induction cs generalizing m with
  | nil => rfl
  | cons c rest ih =>
    rw [cut]
    split
    next comma =>
      obtain ⟨-, rfl⟩ := comma
      obtain ⟨p, ps, pieces⟩ := List.exists_cons_of_ne_nil (cut_ne_nil .outside rest)
      have rest_eq := ih .outside
      rw [pieces] at rest_eq
      rw [pieces, Text.join, rest_eq]
      rfl
    · rw [Text.join_consHead _ _ (cut_ne_nil _ _), ih]

theorem Mode.next_outside_quote {q : Char} (quote : isQuote q = true) : Mode.outside.next q = .within q := by
  rw [Mode.next, if_pos quote]

theorem Mode.next_outside_bare {c : Char} (bare : isQuote c = false) : Mode.outside.next c = .outside := by
  rw [Mode.next, bare, if_neg Bool.false_ne_true]

theorem Mode.next_within_quote {q : Char} (quote : isQuote q = true) : (Mode.within q).next q = .outside := by
  rw [Mode.next, if_neg (ne_of_isQuote quote (by decide)), if_pos rfl]

theorem Mode.next_within_plain {q c : Char} (other : c ≠ q) (solid : c ≠ '\\') :
    (Mode.within q).next c = .within q := by
  rw [Mode.next, if_neg solid, if_neg other]

theorem Mode.next_within_backslash (q : Char) : (Mode.within q).next '\\' = .escaped q := by
  rw [Mode.next, if_pos rfl]

theorem Mode.next_escaped (q c : Char) : (Mode.escaped q).next c = .within q := rfl

/-- What may stand between a quote and the one that closes it: characters other than this quote and the backslash,
and any character at all behind a backslash. -/
inductive QuotedBody (q : Char) : List Char → Prop
  | nil : QuotedBody q []
  | plain {c : Char} {cs : List Char} (other : c ≠ q) (solid : c ≠ '\\') (rest : QuotedBody q cs) :
      QuotedBody q (c :: cs)
  | shielded (c : Char) {cs : List Char} (rest : QuotedBody q cs) : QuotedBody q ('\\' :: c :: cs)

/-- A text that closes every quote it opens, so that what comes behind it is outside quotes. -/
inductive Closed : List Char → Prop
  | nil : Closed []
  | plain {c : Char} {cs : List Char} (bare : isQuote c = false) (rest : Closed cs) : Closed (c :: cs)
  | quoted {q : Char} {body cs : List Char} (quote : isQuote q = true) (inside : QuotedBody q body)
      (rest : Closed cs) : Closed (q :: body ++ q :: cs)

theorem quotedBody_of_notMem {q : Char} {text : List Char} (closed : q ∉ text) (plain : '\\' ∉ text) :
    QuotedBody q text := by
  induction text with
  | nil => exact .nil
  | cons c text ih =>
    rw [List.mem_cons, not_or] at closed plain
    exact .plain (Ne.symm closed.1) (Ne.symm plain.1) (ih closed.2 plain.2)

/-- Between its quotes such a text is scanned without a cut, and the scan stays between them. -/
theorem QuotedBody.scanned {q : Char} {text : List Char} (body : QuotedBody q text) :
    Uncut (.within q) text ∧ (Mode.within q).after text = .within q := by
  have inside : Mode.within q ≠ .outside := by simp
  have shielded : Mode.escaped q ≠ .outside := by simp
  induction body with
  | nil => exact ⟨trivial, rfl⟩
  | plain other solid _ ih =>
    obtain ⟨uncut, after⟩ := ih
    rw [Uncut, Mode.after_cons, Mode.next_within_plain other solid]
    exact ⟨⟨fun comma => inside comma.1, uncut⟩, after⟩
  | shielded c _ ih =>
    obtain ⟨uncut, after⟩ := ih
    rw [Uncut, Uncut, Mode.after_cons, Mode.after_cons, Mode.next_within_backslash, Mode.next_escaped]
    exact ⟨⟨fun comma => inside comma.1, fun comma => shielded comma.1, uncut⟩, after⟩

theorem Closed.after {cs : List Char} (closed : Closed cs) : Mode.outside.after cs = .outside := by
  induction closed with
  | nil => rfl
  | plain bare _ ih => rw [Mode.after_cons, Mode.next_outside_bare bare, ih]
  | quoted quote inside _ ih =>
    rw [List.cons_append, Mode.after_cons, Mode.next_outside_quote quote, Mode.after_append, inside.scanned.2,
      Mode.after_cons, Mode.next_within_quote quote, ih]

/-- The texts behind which a scan that starts in the mode can be outside quotes. -/
def Mode.Closing : Mode → List Char → Prop
  | outside, cs => Closed cs
  | within q, cs => ∃ body rest, cs = body ++ q :: rest ∧ QuotedBody q body ∧ Closed rest
  | escaped q, cs => ∃ c body rest, cs = c :: (body ++ q :: rest) ∧ QuotedBody q body ∧ Closed rest

theorem Mode.closing_cons {m : Mode} {c : Char} {cs : List Char} (closing : (m.next c).Closing cs) :
    m.Closing (c :: cs) := by
  cases m with
  | outside =>
    cases quote : isQuote c with
    | true =>
      rw [Mode.next_outside_quote quote] at closing
      obtain ⟨body, rest, rfl, inside, closed⟩ := closing
      exact .quoted quote inside closed
    | false =>
      rw [Mode.next_outside_bare quote] at closing
      exact .plain quote closing
  | within q =>
    -- The backslash is asked about first: behind it even the quote itself does not close.
    by_cases backslash : c = '\\'
    · rw [backslash, Mode.next_within_backslash] at closing
      obtain ⟨d, body, rest, rfl, inside, closed⟩ := closing
      exact ⟨'\\' :: d :: body, rest, by rw [backslash]; rfl, .shielded d inside, closed⟩
    · by_cases closes : c = q
      · rw [Mode.next, if_neg backslash, if_pos closes] at closing
        exact ⟨[], cs, by rw [closes]; rfl, .nil, closing⟩
      · rw [Mode.next_within_plain closes backslash] at closing
        obtain ⟨body, rest, rfl, inside, closed⟩ := closing
        exact ⟨c :: body, rest, rfl, .plain closes backslash inside, closed⟩
  | escaped q =>
    obtain ⟨body, rest, rfl, inside, closed⟩ := closing
    exact ⟨c, body, rest, rfl, inside, closed⟩

theorem Mode.closing_of_after {m : Mode} {cs : List Char} (after : m.after cs = .outside) : m.Closing cs := by
  induction cs generalizing m with
  | nil =>
    have outside : m = .outside := after
    rw [outside]
    exact Closed.nil
  | cons c cs ih => exact Mode.closing_cons (ih after)

/-- A scan from outside quotes is outside again behind exactly the texts that close their quotes. -/
theorem closed_iff {cs : List Char} : Closed cs ↔ Mode.outside.after cs = .outside :=
  ⟨Closed.after, Mode.closing_of_after⟩

instance : DecidablePred Closed := fun _ => decidable_of_iff _ closed_iff.symm

/-- A comma outside quotes stands at the place: the text before it closes its quotes. -/
def TopComma (cs : List Char) (i : Nat) : Prop := cs[i]? = some ',' ∧ Closed (cs.take i)

instance (cs : List Char) : DecidablePred (TopComma cs) := fun _ => inferInstanceAs (Decidable (_ ∧ _))

/-- The places of the commas outside quotes. -/
def topCommas (cs : List Char) : List Nat := (List.range cs.length).filter fun i => TopComma cs i

/-- A scan that starts in the mode meets a comma outside quotes at the place. -/
def Mode.CommaAt (m : Mode) (cs : List Char) (i : Nat) : Prop := cs[i]? = some ',' ∧ m.after (cs.take i) = .outside

instance (m : Mode) (cs : List Char) : DecidablePred (m.CommaAt cs) := fun _ => inferInstanceAs (Decidable (_ ∧ _))

/-- The places of the commas that such a scan meets. -/
def Mode.commas (m : Mode) (cs : List Char) : List Nat := (List.range cs.length).filter fun i => m.CommaAt cs i

theorem Mode.commaAt_zero {m : Mode} {c : Char} {cs : List Char} :
    m.CommaAt (c :: cs) 0 ↔ m = .outside ∧ c = ',' := by
  rw [Mode.CommaAt, List.getElem?_cons_zero, Option.some_inj, List.take_zero, and_comm]
  rfl

theorem Mode.commaAt_succ {m : Mode} {c : Char} {cs : List Char} {i : Nat} :
    m.CommaAt (c :: cs) (i + 1) ↔ (m.next c).CommaAt cs i := by
  rw [Mode.CommaAt, Mode.CommaAt, List.getElem?_cons_succ, List.take_succ_cons, Mode.after_cons]

theorem topComma_iff {cs : List Char} {i : Nat} : TopComma cs i ↔ Mode.outside.CommaAt cs i :=
  and_congr_right fun _ => closed_iff

theorem topCommas_eq (cs : List Char) : topCommas cs = Mode.outside.commas cs := by
  simp only [topCommas, Mode.commas, topComma_iff]

theorem uncut_iff {m : Mode} {cs : List Char} : Uncut m cs ↔ ∀ i, ¬ m.CommaAt cs i := by
  induction cs generalizing m with
  | nil =>
    have empty : ∀ i, ¬ m.CommaAt [] i := by simp [Mode.CommaAt]
    exact ⟨fun _ => empty, fun _ => trivial⟩
  | cons c cs ih =>
    rw [Uncut, ← Nat.and_forall_add_one, Mode.commaAt_zero, ih]
    simp only [Mode.commaAt_succ]

theorem Mode.length_commas_cons (m : Mode) (c : Char) (cs : List Char) :
    (m.commas (c :: cs)).length = (if m = .outside ∧ c = ',' then 1 else 0) + ((m.next c).commas cs).length := by
  simp only [Mode.commas, ← List.countP_eq_length_filter, List.length_cons, List.range_succ_eq_map, List.countP_cons,
    List.countP_map, Function.comp_def, Mode.commaAt_succ, Mode.commaAt_zero, decide_eq_true_eq]
  omega

/-- Each comma that the scan meets ends one piece, and the end of the text ends the last. -/
theorem length_cut (m : Mode) (cs : List Char) : (cut m cs).length = (m.commas cs).length + 1 := by
  induction cs generalizing m with
  | nil => rfl
  | cons c cs ih =>
    rw [cut, Mode.length_commas_cons]
    by_cases comma : m = .outside ∧ c = ','
    · obtain ⟨rfl, rfl⟩ := comma
      have outside : Mode.outside.next ',' = .outside := Mode.next_outside_bare rfl
      rw [if_pos ⟨rfl, rfl⟩, if_pos ⟨rfl, rfl⟩, List.length_cons, ih, outside]
      omega
    · rw [if_neg comma, if_neg comma, Text.length_consHead _ (cut_ne_nil _ _), ih]
      omega

/-- What a scan that starts in the mode leaves: pieces without a comma outside quotes, each but the last with the
scan outside quotes behind it. -/
inductive IsCut : Mode → List (List Char) → Prop
  | last {m : Mode} {p : List Char} (uncut : Uncut m p) : IsCut m [p]
  | next {m : Mode} {p : List Char} {ps : List (List Char)} (uncut : Uncut m p) (after : m.after p = .outside)
      (rest : IsCut .outside ps) : IsCut m (p :: ps)

theorem IsCut.ne_nil {m : Mode} {ps : List (List Char)} (pieces : IsCut m ps) : ps ≠ [] := by
  cases pieces <;> exact List.cons_ne_nil _ _

/-- A character that is no place to cut goes into the first piece. -/
theorem IsCut.consHead {m : Mode} {c : Char} {ps : List (List Char)} (kept : ¬ (m = .outside ∧ c = ','))
    (pieces : IsCut (m.next c) ps) : IsCut m (Text.consHead c ps) := by
  cases pieces with
  | last uncut => exact .last ⟨kept, uncut⟩
  | next uncut after rest => exact .next ⟨kept, uncut⟩ after rest

theorem isCut_cut (m : Mode) (cs : List Char) : IsCut m (cut m cs) := by
  induction cs generalizing m with
  | nil => exact .last trivial
  | cons c cs ih =>
    rw [cut]
    split
    next comma => exact .next trivial comma.1 (ih .outside)
    next kept => exact (ih (m.next c)).consHead kept

/-- Pieces that a scan can leave are what it leaves of their text. -/
theorem IsCut.cut_join {m : Mode} {ps : List (List Char)} (pieces : IsCut m ps) :
    cut m (Text.join [','] ps) = ps := by
  induction pieces with
  | last uncut => exact cut_of_uncut uncut
  | next uncut after rest ih =>
    obtain ⟨q, qs, rfl⟩ := List.exists_cons_of_ne_nil rest.ne_nil
    rw [Text.join, List.append_assoc, List.singleton_append, cut_separated uncut after, ih]

theorem eq_cut_iff {m : Mode} {cs : List Char} {ps : List (List Char)} :
    ps = cut m cs ↔ Text.join [','] ps = cs ∧ IsCut m ps := by
  constructor
  · rintro rfl
    exact ⟨join_cut m cs, isCut_cut m cs⟩
  · rintro ⟨rfl, pieces⟩
    exact pieces.cut_join.symm

/-- From outside quotes all pieces are scanned alike. -/
theorem isCut_outside_iff {ps : List (List Char)} :
    IsCut .outside ps ↔ (∀ p ∈ ps, Uncut .outside p) ∧
      ∃ front last, ps = front ++ [last] ∧ ∀ p ∈ front, Mode.outside.after p = .outside := by
  constructor
  · intro pieces
    induction ps with
    | nil => cases pieces
    | cons p ps ih =>
      rw [List.forall_mem_cons]
      cases pieces with
      | last uncut => exact ⟨⟨uncut, List.forall_mem_nil _⟩, [], p, rfl, List.forall_mem_nil _⟩
      | next uncut after rest =>
        obtain ⟨uncuts, front, last, rfl, afters⟩ := ih rest
        exact ⟨⟨uncut, uncuts⟩, p :: front, last, rfl, List.forall_mem_cons.mpr ⟨after, afters⟩⟩
  · rintro ⟨uncuts, front, last, rfl, afters⟩
    induction front with
    | nil => exact .last (uncuts last (List.mem_singleton_self last))
    | cons p front ih =>
      rw [List.cons_append, List.forall_mem_cons] at uncuts
      rw [List.forall_mem_cons] at afters
      exact .next uncuts.1 afters.1 (ih afters.2 uncuts.2)

/-- A text and its pieces, when it is cut at its commas outside quotes and nowhere else. There is always a last
piece: the empty text is one empty piece. -/
structure CutAtCommas (cs : List Char) (ps : List (List Char)) : Prop where
  joined : Text.join [','] ps = cs
  uncut : ∀ p ∈ ps, ∀ i, ¬ TopComma p i
  closed : ∃ front last, ps = front ++ [last] ∧ ∀ p ∈ front, Closed p

theorem cutAtCommas_iff {cs : List Char} {ps : List (List Char)} :
    CutAtCommas cs ps ↔ Text.join [','] ps = cs ∧ IsCut .outside ps := by
  simp only [isCut_outside_iff, uncut_iff, ← topComma_iff, ← closed_iff]
  constructor
  · intro cutting
    exact ⟨cutting.joined, cutting.uncut, cutting.closed⟩
  · rintro ⟨joined, uncut, closed⟩
    exact ⟨joined, uncut, closed⟩

/-- A list in bare notation is cut at its commas outside quotes and nowhere else, and this alone says what its pieces
are; there is one piece more than there are such commas. -/
theorem cut_at_top_commas (cs : List Char) :
    (∀ ps, CutAtCommas cs ps ↔ ps = splitBare cs) ∧ (splitBare cs).length = (topCommas cs).length + 1 := by
  constructor
  · intro ps
    rw [cutAtCommas_iff, splitBare, eq_cut_iff]
  · rw [splitBare, length_cut, topCommas_eq]

/-- Commas side by side, a quote behind a backslash, and a quote that is left open with a backslash at the end. -/
example : topCommas "a,,'b\\',c',\"d,e\\".toList = [1, 2, 10] ∧
    splitBare "a,,'b\\',c',\"d,e\\".toList =
      ["a".toList, [], "'b\\',c'".toList, "\"d,e\\".toList] := by decide

/-- A text in quotes is scanned as a whole, and behind it the scan is outside again. -/
theorem after_body {q : Char} {s : String} (quoted : isQuote q = true) (closed : q ∉ s.toList)
    (plain : '\\' ∉ s.toList) :
    Uncut .outside ((Argument.literal s).body q) ∧
      Mode.outside.after ((Argument.literal s).body q) = .outside := by
  have other : q ≠ ',' := ne_of_isQuote quoted (by decide)
  have inside : Mode.within q ≠ .outside := by simp
  obtain ⟨uncut, after⟩ := (quotedBody_of_notMem closed plain).scanned
  rw [Argument.body, List.cons_append]
  constructor
  · refine ⟨fun comma => other comma.2, ?_⟩
    rw [Mode.next_outside_quote quoted]
    refine uncut_append uncut ?_
    rw [after]
    exact ⟨fun comma => inside comma.1, trivial⟩
  · rw [Mode.after_cons, Mode.next_outside_quote quoted, Mode.after_append, after, Mode.after_cons,
      Mode.next_within_quote quoted]
    rfl

/-- A blank in front of a piece is cleaned away. -/
theorem clean_cons {c : Char} (blank : Text.isBlank c = true) (p : List Char) : clean (c :: p) = clean p := by
  have alone : [c].all Text.isBlank = true := by simpa using blank
  have start : Text.trimStart (c :: p) = Text.trimStart p := Text.trimStart_append_left alone p
  rw [clean, Text.trim, start, ← Text.trim, ← clean]

theorem map_clean_consHead {c : Char} (blank : Text.isBlank c = true) {ps : List (List Char)} (some : ps ≠ []) :
    (Text.consHead c ps).map clean = ps.map clean := by
  obtain ⟨p, ps, rfl⟩ := List.exists_cons_of_ne_nil some
  rw [Text.consHead, List.map_cons, List.map_cons, clean_cons blank]

/-- Texts in double quotes, in bare notation. -/
def bareList (texts : List String) : List Char :=
  Text.join ", ".toList (texts.map fun t => (Argument.literal t).body '"')

/-- Texts in double quotes as arguments to be written. -/
def doubleQuoted (texts : List String) : Quoting := texts.map fun t => ('"', .literal t)

/-- Texts that nothing ends within double quotes. -/
def Enclosable (texts : List String) : Prop := ∀ t ∈ texts, '"' ∉ t.toList ∧ '\\' ∉ t.toList

theorem bareList_cons (t u : String) (texts : List String) :
    bareList (t :: u :: texts) = (Argument.literal t).body '"' ++ ',' :: ' ' :: bareList (u :: texts) := by
  simp [bareList, Text.join]

theorem exists_bareList_cons (t : String) (texts : List String) : ∃ rest, bareList (t :: texts) = '"' :: rest := by
  cases texts with
  | nil => exact ⟨_, rfl⟩
  | cons u texts =>
    rw [bareList_cons]
    exact ⟨_, rfl⟩

/-- The pieces between the commas of the list are cleaned back to the texts. -/
theorem map_clean_splitBare {texts : List String} (enclosable : Enclosable texts) (some : texts ≠ []) :
    (splitBare (bareList texts)).map clean = texts.map String.toList := by
  have quoted : isQuote '"' = true := rfl
  -- By induction on the texts. Behind each one the scan is outside quotes, so the next comma is the one put there.
  induction texts with
  | nil => exact absurd rfl some
  | cons t texts ih =>
    rw [Enclosable, List.forall_mem_cons] at enclosable
    obtain ⟨uncut, after⟩ := after_body quoted enclosable.1.1 enclosable.1.2
    have cleaned : clean ((Argument.literal t).body '"') = t.toList := clean_body quoted
    cases texts with
    | nil =>
      have whole : splitBare (bareList [t]) = [(Argument.literal t).body '"'] := cut_of_uncut uncut
      rw [whole, List.map_singleton, cleaned, List.map_singleton]
    | cons u texts =>
      have blank : Text.isBlank ' ' = true := by decide
      have spaced : cut .outside (' ' :: bareList (u :: texts)) =
          Text.consHead ' ' (splitBare (bareList (u :: texts))) := by
        rw [cut, if_neg (by decide)]
        rfl
      have further : splitBare (bareList (u :: texts)) ≠ [] := cut_ne_nil _ _
      have later := ih enclosable.2 (List.cons_ne_nil _ _)
      rw [bareList_cons, splitBare, cut_separated uncut after, spaced, List.map_cons, cleaned,
        map_clean_consHead blank further, later]
      rfl

theorem not_infix_bareList {texts : List String} (unmarked : ∀ t ∈ texts, ¬ marker.toList <:+: t.toList) :
    ¬ marker.toList <:+: bareList texts := by
  have quoted : isQuote '"' = true := rfl
  induction texts with
  | nil => decide
  | cons t texts ih =>
    rw [List.forall_mem_cons] at unmarked
    have free : (Argument.literal t).Unmarked := Argument.unmarked_literal_iff.mpr unmarked.1
    cases texts with
    | nil =>
      have alone := not_infix_body quoted free (show ¬ marker.toList <:+: [] by decide)
      rwa [List.append_nil] at alone
    | cons u texts =>
      have separated : ¬ marker.toList <:+: [','] ++ ' ' :: bareList (u :: texts) :=
        Text.not_infix_append_cons (by decide) (by decide) (ih unmarked.2)
      rw [bareList_cons]
      exact not_infix_body quoted free separated

/-- The pieces of a list in bare notation, cleaned, are its texts. -/
theorem map_clean_pieces_bareList {texts : List String} (enclosable : Enclosable texts)
    (unmarked : ∀ t ∈ texts, ¬ marker.toList <:+: t.toList) :
    (pieces (bareList texts)).map clean = texts.map String.toList := by
  cases texts with
  | nil => rfl
  | cons t texts =>
    obtain ⟨rest, begins⟩ := exists_bareList_cons t texts
    have solid : (bareList (t :: texts)).all Text.isBlank = false := by
      rw [begins]
      rfl
    have bare : isTagged (bareList (t :: texts)) = false := isTagged_eq_false_iff.mpr (not_infix_bareList unmarked)
    rw [pieces, solid, bare]
    exact map_clean_splitBare enclosable (List.cons_ne_nil _ _)

section

variable {texts : List String} (enclosable : Enclosable texts)
  (unmarked : ∀ t ∈ texts, ¬ marker.toList <:+: t.toList)

include enclosable unmarked

/-- Bare notation and tagged notation are read alike. -/
theorem arguments_bareList : arguments (bareList texts) = arguments (taggedList (doubleQuoted texts)) := by
  have separable : Separable (doubleQuoted texts) := by
    intro p member
    obtain ⟨t, text, rfl⟩ := List.mem_map.mp member
    exact ⟨rfl, Argument.unmarked_literal_iff.mpr (unmarked t text)⟩
  have same : (doubleQuoted texts).map (·.2.text.toList) = texts.map String.toList := by
    rw [doubleQuoted, List.map_map]
    rfl
  rw [arguments_eq_mapM, arguments_eq_mapM, map_clean_pieces_bareList enclosable unmarked,
    map_clean_pieces_taggedList separable, same]

/-- What a list in bare notation is read as: each text by itself. -/
theorem arguments_bareList_eq_ok_iff {args : List Argument} :
    arguments (bareList texts) = .ok args ↔ List.Forall₂ (fun t a => Reads t.toList a) texts args := by
  rw [arguments_eq_mapM, map_clean_pieces_bareList enclosable unmarked, mapM_eq_ok_iff, List.forall₂_map_left_iff]
  simp only [toArgument_eq_ok_iff]

end

/-- Every text is read as an argument, unless it is a reference with too many digits. -/
theorem exists_reads {text : List Char}
    (short : ∀ digits, HasReferenceForm digits text → digits.length ≤ Numeral.limit) : ∃ a, Reads text a := by
  cases found : referenceDigits? text with
  | none => exact ⟨_, .literal (referenceDigits?_eq_none_iff.mp found)⟩
  | some digits =>
    have form := referenceDigits?_eq_some_iff.mp found
    exact ⟨_, .reference form (short digits form)⟩

theorem exists_reads_each {texts : List String}
    (short : ∀ t ∈ texts, ∀ digits, HasReferenceForm digits t.toList → digits.length ≤ Numeral.limit) :
    ∃ args, List.Forall₂ (fun t a => Reads t.toList a) texts args := by
  induction texts with
  | nil => exact ⟨[], .nil⟩
  | cons t texts ih =>
    rw [List.forall_mem_cons] at short
    obtain ⟨a, here⟩ := exists_reads short.1
    obtain ⟨args, later⟩ := ih short.2
    exact ⟨a :: args, .cons here later⟩

/-- Texts in double quotes are read alike with markers and without, one argument for each text: the text itself, or
the reference that it has the form of, with or without a line feed behind it. They may have commas, parentheses and
other quote characters, but neither a double quote nor a backslash. -/
theorem bare_read_as_tagged (texts : List String)
    (free : ∀ t ∈ texts, '"' ∉ t.toList ∧ '\\' ∉ t.toList ∧ ¬ marker.toList <:+: t.toList)
    (short : ∀ t ∈ texts, ∀ digits, HasReferenceForm digits t.toList → digits.length ≤ Numeral.limit) :
    splitArguments (Text.joinText ", " (texts.map fun t => "\"" ++ t ++ "\"")) =
        splitArguments (Text.joinText ", " (texts.map fun t => marker ++ "\"" ++ t ++ "\"")) ∧
      ∃ args, splitArguments (Text.joinText ", " (texts.map fun t => "\"" ++ t ++ "\"")) = .ok args ∧
        List.Forall₂ (fun t a => Reads t.toList a) texts args := by
  have enclosable : Enclosable texts := fun t member => ⟨(free t member).1, (free t member).2.1⟩
  have unmarked : ∀ t ∈ texts, ¬ marker.toList <:+: t.toList := fun t member => (free t member).2.2
  have bare : (Text.joinText ", " (texts.map fun t => "\"" ++ t ++ "\"")).toList = bareList texts := by
    simp [Text.joinText, bareList, Argument.body, Function.comp_def]
  have tagged : (Text.joinText ", " (texts.map fun t => marker ++ "\"" ++ t ++ "\"")).toList =
      taggedList (doubleQuoted texts) := by
    simp [Text.joinText, taggedList, doubleQuoted, Call.tagged, Function.comp_def]
  rw [splitArguments, splitArguments, bare, tagged]
  refine ⟨arguments_bareList enclosable unmarked, ?_⟩
  obtain ⟨args, related⟩ := exists_reads_each short
  exact ⟨args, (arguments_bareList_eq_ok_iff enclosable unmarked).mpr related, related⟩

/-- Texts with all that may stand in them: commas, parentheses, other quotes, blanks at both ends, and most of a
marker. -/
def mixedTexts : List String := ["it's, f(x)", "outputList[07]", "", " \x60\n@@ai-arg@ "]

theorem bare_read_as_tagged_mixed :
    (∀ t ∈ mixedTexts, '"' ∉ t.toList ∧ '\\' ∉ t.toList ∧ ¬ marker.toList <:+: t.toList) ∧
      splitArguments "\"it's, f(x)\", \"outputList[07]\", \"\", \" \x60\n@@ai-arg@ \"" =
        splitArguments ("@@ai-arg@@\"it's, f(x)\", @@ai-arg@@\"outputList[07]\", @@ai-arg@@\"\", " ++
          "@@ai-arg@@\" \x60\n@@ai-arg@ \"") ∧
      splitArguments "\"it's, f(x)\", \"outputList[07]\", \"\", \" \x60\n@@ai-arg@ \"" =
        .ok [.literal "it's, f(x)", .reference 7, .literal "", .literal " \x60\n@@ai-arg@ "] := by
  have free : ∀ t ∈ mixedTexts, '"' ∉ t.toList ∧ '\\' ∉ t.toList ∧ ¬ marker.toList <:+: t.toList := by
    simp only [← Text.occurs_iff_infix]
    decide
  have short : ∀ t ∈ mixedTexts, ∀ digits, HasReferenceForm digits t.toList → digits.length ≤ Numeral.limit := by
    intro t member digits form
    have found := referenceDigits?_eq_some_iff.mpr form
    simp only [mixedTexts, List.mem_cons, List.not_mem_nil, or_false] at member
    rcases member with rfl | rfl | rfl | rfl <;> cases found
    decide
  obtain ⟨alike, -⟩ := bare_read_as_tagged mixedTexts free short
  refine ⟨free, alike, ?_⟩
  decide

end Stepwise.Call
