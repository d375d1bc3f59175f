import Mathlib.Data.List.Basic
import Stepwise.Json.Reader

/-!
What reading a JSON text takes in. Whoever looks at a text from the left, telling strings from the rest and counting
brackets, knows at each place outside strings how many lists and objects are open there. A value, or what stands
inside of a list or an object, leaves this count as it is.
-/

namespace Stepwise.Json

/-- Where a look at a text stands: outside strings, in a string, or behind a backslash in one. -/
inductive Spot
  | outside
  | within
  | escaped
  deriving DecidableEq, Repr

/-- A spot, and how many lists and objects are open there. -/
abbrev Outlook := Spot × ℕ

/-- The outlook behind one more character. -/
def Spot.step : Outlook → Char → Outlook
  | (.outside, n), c =>
    if c = '"' then (.within, n)
    else if c = '[' ∨ c = '\x7b' then (.outside, n + 1)
    else if c = ']' ∨ c = '\x7d' then (.outside, n - 1)
    else (.outside, n)
  | (.within, n), c => (if c = '\\' then .escaped else if c = '"' then .outside else .within, n)
  | (.escaped, n), _ => (.within, n)

/-- The outlook behind a text. -/
def look (start : Outlook) (cs : List Char) : Outlook := cs.foldl Spot.step start

@[simp] theorem look_nil (start : Outlook) : look start [] = start := rfl

@[simp] theorem look_cons (start : Outlook) (c : Char) (cs : List Char) :
    look start (c :: cs) = look (Spot.step start c) cs := rfl

@[simp] theorem look_append (start : Outlook) (cs ds : List Char) :
    look start (cs ++ ds) = look (look start cs) ds := List.foldl_append

/-- A text goes from one number of open brackets to another, beginning and ending outside strings. -/
def Leads (n : ℕ) (cs : List Char) (m : ℕ) : Prop := look (.outside, n) cs = (.outside, m)

/-- A character that is neither a quote nor a bracket. -/
def isNeutral (c : Char) : Bool := !(['"', '[', ']', '\x7b', '\x7d'].contains c)

section

variable {n m k : ℕ} {cs ds : List Char}

theorem Leads.append (h : Leads n cs m) (h' : Leads m ds k) : Leads n (cs ++ ds) k := by
  rw [Leads, look_append, h, h']

theorem leads_of_neutral (neutral : ∀ c ∈ cs, isNeutral c = true) : Leads n cs n := by
  induction cs with
  | nil => rfl
  | cons c cs ih =>
    rw [List.forall_mem_cons] at neutral
    have here := neutral.1
    simp only [isNeutral, Bool.not_eq_true', List.contains_eq_mem, List.mem_cons, List.not_mem_nil, or_false,
      decide_eq_false_iff_not, not_or] at here
    rw [Leads, look_cons]
    have same : Spot.step (.outside, n) c = (.outside, n) := by simp [Spot.step, here]
    rw [same]
    exact ih neutral.2

/-- A text of which a part may be taken in that leaves the number of open brackets as it is. -/
def Reaches (n : ℕ) (cs rest : List Char) : Prop := ∃ p, cs = p ++ rest ∧ Leads n p n

theorem Reaches.trans {rest : List Char} (h : Reaches n cs ds) (h' : Reaches n ds rest) : Reaches n cs rest := by
  obtain ⟨p, rfl, leads⟩ := h
  obtain ⟨q, rfl, leads'⟩ := h'
  exact ⟨p ++ q, by simp, leads.append leads'⟩

theorem leads_open {c : Char} (bracket : c = '[' ∨ c = '\x7b') : Leads n [c] (n + 1) := by
  rcases bracket with rfl | rfl <;> rfl

theorem leads_close {c : Char} (bracket : c = ']' ∨ c = '\x7d') : Leads (n + 1) [c] n := by
  rcases bracket with rfl | rfl <;> rfl

end

/-- A hexadecimal digit neither ends a string nor escapes anything. -/
theorem ne_of_hexValue? {c : Char} {d : ℕ} (h : hexValue? c = some d) : c ≠ '"' ∧ c ≠ '\\' := by
  constructor
  · rintro rfl
    cases h
  · rintro rfl
    cases h

theorem ne_of_hex4? {a b c d : Char} {n : ℕ} (h : hex4? a b c d = some n) :
    ∀ x ∈ [a, b, c, d], x ≠ '"' ∧ x ≠ '\\' := by
  unfold hex4? at h
  split at h
  next ha hb hc hd =>
    simp only [List.forall_mem_cons, List.not_mem_nil, false_implies, implies_true, and_true]
    exact ⟨ne_of_hexValue? ha, ne_of_hexValue? hb, ne_of_hexValue? hc, ne_of_hexValue? hd⟩
  · cases h

theorem exists_of_consUnit_eq_ok {n : ℕ} {u : Units} {units : List ℕ} {rest : List Char}
    (h : consUnit n u = .ok (units, rest)) : ∃ more, u = .ok (more, rest) := by
  cases u with
  | ok p =>
    cases h
    exact ⟨_, rfl⟩
  | error e => cases h

/-- What is read of a string goes on up to its closing quote. -/
theorem stringUnits_walked {start : ℕ} {cs rest : List Char} {units : List ℕ} (n : ℕ)
    (h : stringUnits start cs = .ok (units, rest)) :
    ∃ body, cs = body ++ '"' :: rest ∧ look (.within, n) body = (.within, n) := by
  fun_induction stringUnits start cs generalizing units with
  | case2 tail =>
    cases h
    exact ⟨[], rfl, rfl⟩
  | case5 a b c d tail code digits more ih =>
    obtain ⟨units', h'⟩ := exists_of_consUnit_eq_ok h
    obtain ⟨body, rfl, walked⟩ := ih h'
    have hex := ne_of_hex4? digits
    simp only [List.forall_mem_cons, List.not_mem_nil, false_implies, implies_true, and_true] at hex
    refine ⟨'\\' :: 'u' :: a :: b :: c :: d :: body, rfl, ?_⟩
    simpa [Spot.step, hex] using walked
  | case7 letter tail other char short ih =>
    obtain ⟨units', h'⟩ := exists_of_consUnit_eq_ok h
    obtain ⟨body, rfl, walked⟩ := ih h'
    exact ⟨'\\' :: letter :: body, rfl, by simpa [Spot.step] using walked⟩
  | case11 c tail quote last code escape visible ih =>
    obtain ⟨units', h'⟩ := exists_of_consUnit_eq_ok h
    obtain ⟨body, rfl, walked⟩ := ih h'
    have quote : c ≠ '"' := quote
    have backslash : c ≠ '\\' := by
      rintro rfl
      cases body with
      | nil => exact escape _ _ rfl rfl
      | cons d body => exact escape _ _ rfl rfl
    exact ⟨c :: body, rfl, by simpa [Spot.step, quote, backslash] using walked⟩
  | _ => cases h

/-- A string from its opening quote on. -/
theorem reaches_stringBody {cs rest body : List Char} (n : ℕ) (h : stringBody cs = .ok (body, rest)) :
    Reaches n ('"' :: cs) rest := by
  unfold stringBody at h
  cases read : stringUnits (cs.length + 1) cs with
  | error e =>
    rw [read] at h
    cases h
  | ok p =>
    rw [read] at h
    cases h
    obtain ⟨inner, rfl, walked⟩ := stringUnits_walked n read
    refine ⟨'"' :: inner ++ ['"'], by simp, ?_⟩
    rw [Leads, List.cons_append, look_cons, look_append]
    simp [Spot.step, walked]

theorem isNeutral_of_isDigit {c : Char} (h : c.isDigit = true) : isNeutral c = true := by
  by_contra other
  simp only [isNeutral, Bool.not_eq_true, Bool.not_eq_false', List.contains_eq_mem, List.mem_cons,
    List.not_mem_nil, or_false, decide_eq_true_eq] at other
  rcases other with rfl | rfl | rfl | rfl | rfl <;> cases h

/-- A text is a neutral part and the rest. -/
def Skips (cs rest : List Char) : Prop := ∃ p, cs = p ++ rest ∧ ∀ c ∈ p, isNeutral c = true

section

variable {cs ds rest : List Char}

theorem Skips.refl (cs : List Char) : Skips cs cs := ⟨[], rfl, by simp⟩

theorem Skips.trans (h : Skips cs ds) (h' : Skips ds rest) : Skips cs rest := by
  obtain ⟨p, rfl, neutral⟩ := h
  obtain ⟨q, rfl, neutral'⟩ := h'
  refine ⟨p ++ q, by simp, fun c member => ?_⟩
  rcases List.mem_append.mp member with member | member
  · exact neutral c member
  · exact neutral' c member

theorem Skips.cons {c : Char} (neutral : isNeutral c = true) (h : Skips cs rest) : Skips (c :: cs) rest := by
  obtain ⟨p, rfl, neutral'⟩ := h
  exact ⟨c :: p, rfl, List.forall_mem_cons.mpr ⟨neutral, neutral'⟩⟩

theorem Skips.reaches (h : Skips cs rest) (n : ℕ) : Reaches n cs rest := by
  obtain ⟨p, rfl, neutral⟩ := h
  exact ⟨p, rfl, leads_of_neutral neutral⟩

theorem skips_dropWhile {holds : Char → Bool} (neutral : ∀ c, holds c = true → isNeutral c = true)
    (cs : List Char) : Skips cs (cs.dropWhile holds) :=
  ⟨cs.takeWhile holds, List.takeWhile_append_dropWhile.symm,
    fun c member => neutral c (List.all_eq_true.mp List.all_takeWhile c member)⟩

theorem skips_skipSpace (cs : List Char) : Skips cs (skipSpace cs) := by
  refine skips_dropWhile (fun c space => ?_) cs
  simp only [isSpace, Bool.or_eq_true, beq_iff_eq] at space
  rcases space with ((rfl | rfl) | rfl) | rfl <;> decide

theorem skips_digitRun (cs : List Char) : Skips cs (digitRun cs).2 :=
  skips_dropWhile (fun _ => isNeutral_of_isDigit) cs

theorem skips_fraction {digits : List Char} (h : fraction cs = some (digits, rest)) : Skips cs rest := by
  unfold fraction at h
  split at h
  next tail =>
    split at h
    · cases h
    · cases h
      exact .cons (by decide) (skips_digitRun tail)
  · cases h

theorem skips_sign (cs : List Char) :
    Skips cs (if cs.head? == some '-' || cs.head? == some '+' then cs.drop 1 else cs) := by
  cases cs with
  | nil => exact .refl _
  | cons c cs =>
    split
    next signed =>
      simp only [List.head?_cons, Bool.or_eq_true, beq_iff_eq, Option.some.injEq] at signed
      have neutral : isNeutral c = true := by rcases signed with rfl | rfl <;> decide
      exact .cons neutral (.refl cs)
    · exact .refl _

theorem skips_exponent {e : Int} (h : exponent cs = some (e, rest)) : Skips cs rest := by
  unfold exponent at h
  split at h
  next c tail =>
    split at h
    next marker =>
      have neutral : isNeutral c = true := by rcases marker with rfl | rfl <;> decide
      have signed := skips_sign tail
      simp only at h
      generalize (if tail.head? == some '-' || tail.head? == some '+' then tail.drop 1 else tail) = body
        at h signed
      split at h
      · cases h
      · cases h
        exact .cons neutral (signed.trans (skips_digitRun body))
    · cases h
  · cases h

/-- The digits of an integer, and what follows them. A run of several digits is whole, and has no leading zero. -/
theorem eq_of_wholeDigits {digits : List Char} (h : wholeDigits cs = some (digits, rest)) :
    cs = digits ++ rest ∧ (∀ c ∈ digits, c.isDigit = true) ∧
      (1 < digits.length → digits.head? ≠ some '0' ∧ ∀ c ∈ rest.head?, c.isDigit = false) := by
  unfold wholeDigits at h
  split at h
  next tail =>
    cases h
    exact ⟨rfl, by simp, by simp⟩
  next other =>
    split at h
    · cases h
    · cases h
      have text : cs.takeWhile Char.isDigit ++ cs.dropWhile Char.isDigit = cs := List.takeWhile_append_dropWhile
      refine ⟨text.symm, List.all_eq_true.mp List.all_takeWhile, fun _ => ⟨fun zero => ?_, fun c first => ?_⟩⟩
      · obtain ⟨tail, run⟩ := List.head?_eq_some_iff.mp zero
        rw [run] at text
        exact other _ text.symm
      · have stops := List.head?_dropWhile_not Char.isDigit cs
        rw [Option.mem_def] at first
        rw [first] at stops
        simpa using stops

/-- A number is taken in. -/
theorem skips_unsigned {start : ℕ} {negative : Bool} {v : Value}
    (h : unsigned start negative cs = .ok (v, rest)) : Skips cs rest := by
  unfold unsigned at h
  split at h
  · cases h
  next whole tail digits =>
    obtain ⟨rfl, digit, -⟩ := eq_of_wholeDigits digits
    refine .trans ⟨whole, rfl, fun c member => isNeutral_of_isDigit (digit c member)⟩ ?_
    split at h
    next none none' =>
      split at h
      · cases h
        exact .refl _
      · cases h
    next ds tail' fractional none =>
      cases h
      exact skips_fraction fractional
    next e tail' none exponential =>
      cases h
      rw [none] at exponential
      exact skips_exponent exponential
    next ds tail' e tail'' fractional exponential =>
      cases h
      rw [fractional] at exponential
      exact (skips_fraction fractional).trans (skips_exponent exponential)

theorem skips_word {r : Value × List Char}
    (h : (words.findSome? fun w => (after? w.1 cs).map fun rest => (w.2, rest)) = some r) : Skips cs r.2 := by
  have neutral : words.all (fun w => w.1.toList.all isNeutral) = true := by decide
  obtain ⟨w, member, found⟩ := List.exists_of_findSome?_eq_some h
  obtain ⟨rest, word, rfl⟩ := Option.map_eq_some_iff.mp found
  unfold after? at word
  split at word
  next spelled =>
    cases word
    obtain ⟨tail, rfl⟩ := List.isPrefixOf_iff_prefix.mp spelled
    refine ⟨w.1.toList, by simp, ?_⟩
    exact List.all_eq_true.mp (List.all_eq_true.mp neutral w member)
  · cases word

/-- A word or a number is taken in. -/
theorem skips_atom {v : Value} (h : atom cs = .ok (v, rest)) : Skips cs rest := by
  unfold atom at h
  split at h
  next r word =>
    cases h
    exact skips_word word
  · split at h
    · exact .cons (by decide) (skips_unsigned h)
    · exact skips_unsigned h

/-- What reading a text at a level comes to when it succeeds: a part is taken in that leads back to the level, and
then what closes it. -/
def Walked {α : Type} (n : ℕ) (close cs : List Char) : Except Failure (α × List Char) → Prop
  | .ok (_, rest) => Reaches n cs (close ++ rest)
  | .error _ => True

theorem walked_atom (n : ℕ) (cs : List Char) : Walked n [] cs (atom cs) := by
  cases read : atom cs with
  | ok r => exact (skips_atom read).reaches n
  | error e => trivial

theorem walked_string (n : ℕ) {α : Type} (cs : List Char) (f : List Char → α) :
    Walked n [] ('"' :: cs) ((stringBody cs).map fun p => (f p.1, p.2)) := by
  cases body : stringBody cs with
  | ok r => exact reaches_stringBody n body
  | error e => trivial

/-- What stands in front of what is read. -/
theorem Walked.behind {α : Type} {n : ℕ} {close : List Char} {r : Except Failure (α × List Char)}
    (h : Walked n close ds r) (reaches : Reaches n cs ds) : Walked n close cs r := by
  cases r with
  | error e => trivial
  | ok r => exact reaches.trans h

end

/-- What a list or an object comes to, from what its inside comes to. -/
theorem Walked.enclosed {α β : Type} {n : ℕ} {open_ close : Char} (opening : open_ = '[' ∨ open_ = '\x7b')
    (closing : close = ']' ∨ close = '\x7d') {cs : List Char} {r : Except Failure (α × List Char)} (f : α → β)
    (h : Walked (n + 1) [close] cs r) :
    Walked n [] (open_ :: cs) (r.map fun p => (f p.1, p.2)) := by
  cases r with
  | error e => trivial
  | ok r =>
    obtain ⟨p, rfl, leads⟩ := h
    refine ⟨open_ :: p ++ [close], by simp, ?_⟩
    exact ((leads_open opening).append leads).append (leads_close closing)

section

variable {fuel : ℕ}

theorem value_walked (items_walked : ∀ n cs, Walked n [']'] cs (items fuel n cs))
    (members_walked : ∀ n read cs, Walked n ['\x7d'] cs (members fuel n read cs)) (n : ℕ) (cs : List Char) :
    Walked n [] cs (value (fuel + 1) n cs) := by
  unfold value
  split
  next rest => exact walked_string n rest fun body => Value.text (String.ofList body)
  next rest =>
    split
    · trivial
    · have blank := (skips_skipSpace rest).reaches (n + 1)
      split
      next tail closed =>
        rw [closed] at blank
        exact Walked.enclosed (.inl rfl) (.inl rfl) Value.list (r := .ok ([], tail)) blank
      next body other =>
        have inside := (items_walked (n + 1) (skipSpace rest)).behind blank
        have whole := inside.enclosed (.inl rfl) (.inl rfl) Value.list
        cases read : items fuel (n + 1) (skipSpace rest) with
        | error e => trivial
        | ok r => simpa [read, Except.map] using whole
  next rest =>
    split
    · trivial
    · have blank := (skips_skipSpace rest).reaches (n + 1)
      split
      next tail closed =>
        rw [closed] at blank
        exact Walked.enclosed (.inr rfl) (.inr rfl) Value.object (r := .ok ([], tail)) blank
      next body other =>
        have inside := (members_walked (n + 1) [] (skipSpace rest)).behind blank
        have whole := inside.enclosed (.inr rfl) (.inr rfl) Value.object
        cases read : members fuel (n + 1) [] (skipSpace rest) with
        | error e => trivial
        | ok r => simpa [read, Except.map] using whole
  · exact walked_atom n cs

/-- A mark between values, with blanks on both sides, may be taken in. -/
theorem Reaches.mark {n : ℕ} {cs rest tail : List Char} {c : Char} (h : Reaches n cs rest)
    (next : skipSpace rest = c :: tail) (neutral : isNeutral c = true) : Reaches n cs (skipSpace tail) := by
  have blank := (skips_skipSpace rest).reaches n
  rw [next] at blank
  exact h.trans (blank.trans ((Skips.cons neutral (skips_skipSpace tail)).reaches n))

theorem items_walked (value_walked : ∀ n cs, Walked n [] cs (value fuel n cs))
    (items_walked : ∀ n cs, Walked n [']'] cs (items fuel n cs)) (n : ℕ) (cs : List Char) :
    Walked n [']'] cs (items (fuel + 1) n cs) := by
  unfold items
  have first := value_walked n cs
  split
  · trivial
  next v rest read =>
    rw [read] at first
    split
    next tail comma =>
      have more := (items_walked n (skipSpace tail)).behind (first.mark comma (by decide))
      split
      next vs tail' read' =>
        rw [read'] at more
        exact more
      · trivial
    next tail closed =>
      have blank := (skips_skipSpace rest).reaches n
      rw [closed] at blank
      exact first.trans blank
    · trivial

theorem members_walked (value_walked : ∀ n cs, Walked n [] cs (value fuel n cs))
    (members_walked : ∀ n read cs, Walked n ['\x7d'] cs (members fuel n read cs)) (n : ℕ)
    (read : List (String × Value)) (cs : List Char) :
    Walked n ['\x7d'] cs (members (fuel + 1) n read cs) := by
  unfold members
  split
  next rest =>
    split
    · trivial
    next key rest' named =>
      have name := reaches_stringBody n named
      split
      next tail colon =>
        have start := name.mark colon (by decide)
        have first := (value_walked n (skipSpace tail)).behind start
        split
        · trivial
        next v rest'' taken =>
          rw [taken] at first
          simp only
          split
          next tail' comma => exact (members_walked n _ (skipSpace tail')).behind (first.mark comma (by decide))
          next tail' closed =>
            have blank := (skips_skipSpace rest'').reaches n
            rw [closed] at blank
            exact first.trans blank
          · trivial
      · trivial
  · trivial

end

-- By induction on the fuel: what is read at one depth is read of texts that lead back to it.
theorem walked (fuel : ℕ) :
    (∀ n cs, Walked n [] cs (value fuel n cs)) ∧ (∀ n cs, Walked n [']'] cs (items fuel n cs)) ∧
      ∀ n read cs, Walked n ['\x7d'] cs (members fuel n read cs) := by
  induction fuel with
  | zero => exact ⟨fun _ _ => trivial, fun _ _ => trivial, fun _ _ _ => trivial⟩
  | succ fuel ih =>
    obtain ⟨values, lists, objects⟩ := ih
    exact ⟨value_walked lists objects, items_walked values lists, members_walked values objects⟩

/-- A value that was read leads back to where it began. -/
theorem reaches_of_value {fuel n : ℕ} {cs rest : List Char} {v : Value} (h : value fuel n cs = .ok (v, rest)) :
    Reaches n cs rest := by
  have whole := (walked fuel).1 n cs
  rwa [h] at whole

theorem step_le (at_ : Outlook) (c : Char) : (Spot.step at_ c).2 ≤ at_.2 + 1 := by
  obtain ⟨spot, n⟩ := at_
  cases spot with
  | outside => grind [Spot.step]
  | within => exact Nat.le_succ n
  | escaped => exact Nat.le_succ n

/-- Each character opens at most one list or object. -/
theorem look_le (start : Outlook) (cs : List Char) : (look start cs).2 ≤ start.2 + cs.length := by
  induction cs generalizing start with
  | nil => exact Nat.le_refl _
  | cons c cs ih =>
    have here := step_le start c
    have further := ih (Spot.step start c)
    rw [look_cons, List.length_cons]
    omega

theorem Leads.le {n m : ℕ} {cs : List Char} (h : Leads n cs m) : m ≤ n + cs.length := by
  have bound := look_le (.outside, n) cs
  rwa [h] at bound


end Stepwise.Json
