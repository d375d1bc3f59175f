import Stepwise.Proofs.JsonReading
import Stepwise.Proofs.JsonWalks

/-!
Where reading a JSON text stops for good. Reading comes to one value after the other: to the whole, to the first item of
a list and to those behind commas, and to the members of objects. It stops there if one more list or object would be
open than is allowed, or if an integer has too many digits. Any other fault is one of grammar, which whoever reads may
take for prose; and whatever stands behind the place makes no difference.
-/

namespace Stepwise.Json

theorem length_skipSpace_le (cs : List Char) : (skipSpace cs).length ≤ cs.length :=
  (List.dropWhile_suffix _).length_le

theorem length_of_skipSpace {c : Char} {cs tail : List Char} (h : skipSpace cs = c :: tail) :
    (skipSpace tail).length < cs.length := by
  have here := length_skipSpace_le cs
  have there := length_skipSpace_le tail
  rw [h, List.length_cons] at here
  omega

theorem Reaches.length_le {n : ℕ} {cs rest : List Char} (h : Reaches n cs rest) : rest.length ≤ cs.length := by
  obtain ⟨p, rfl, -⟩ := h
  rw [List.length_append]
  exact Nat.le_add_left _ _

theorem length_of_stringBody {cs body rest : List Char} (h : stringBody cs = .ok (body, rest)) :
    rest.length ≤ cs.length + 1 := (reaches_stringBody 0 h).length_le

section

variable {fuel more n : ℕ} {cs : List Char}

theorem value_congr
    (lists : ∀ rest, cs = '[' :: rest → items fuel (n + 1) (skipSpace rest) = items more (n + 1) (skipSpace rest))
    (objects : ∀ rest, cs = '\x7b' :: rest →
      members fuel (n + 1) [] (skipSpace rest) = members more (n + 1) [] (skipSpace rest)) :
    value (fuel + 1) n cs = value (more + 1) n cs := by
  unfold value
  split
  · rfl
  next rest =>
    have same := lists rest rfl
    generalize skipSpace rest = inside at same ⊢
    split
    · rfl
    · split
      · rfl
      · rw [same]
  next rest =>
    have same := objects rest rfl
    generalize skipSpace rest = inside at same ⊢
    split
    · rfl
    · split
      · rfl
      · rw [same]
  · rfl

theorem items_congr (first : value fuel n cs = value more n cs)
    (later : ∀ v rest tail, value fuel n cs = .ok (v, rest) → skipSpace rest = ',' :: tail →
      items fuel n (skipSpace tail) = items more n (skipSpace tail)) :
    items (fuel + 1) n cs = items (more + 1) n cs := by
  unfold items
  rw [← first]
  split
  · rfl
  next v rest read =>
    split
    next tail comma => rw [later v rest tail read comma]
    · rfl
    · rfl

/-- The name of a member and its colon stand in front of what is left. -/
def Named (cs here : List Char) : Prop :=
  ∃ body key rest tail, cs = '"' :: body ∧ stringBody body = .ok (key, rest) ∧ skipSpace rest = ':' :: tail ∧
    here = skipSpace tail

theorem Named.length_lt {here : List Char} (h : Named cs here) : here.length < cs.length := by
  obtain ⟨body, key, rest, tail, rfl, named, colon, rfl⟩ := h
  have first := length_of_stringBody named
  have second := length_of_skipSpace colon
  rw [List.length_cons]
  omega

theorem Named.reaches {here : List Char} (h : Named cs here) (n : ℕ) : Reaches n cs here := by
  obtain ⟨body, key, rest, tail, rfl, named, colon, rfl⟩ := h
  exact (reaches_stringBody n named).mark colon (by decide)

theorem members_congr (first : ∀ here, Named cs here → value fuel n here = value more n here)
    (later : ∀ here v rest tail read, Named cs here → value fuel n here = .ok (v, rest) →
      skipSpace rest = ',' :: tail → members fuel n read (skipSpace tail) = members more n read (skipSpace tail))
    (read : List (String × Value)) : members (fuel + 1) n read cs = members (more + 1) n read cs := by
  unfold members
  split
  next body =>
    split
    · rfl
    next key rest named =>
      split
      next tail colon =>
        have here : Named ('"' :: body) (skipSpace tail) := ⟨body, key, rest, tail, rfl, named, colon, rfl⟩
        rw [← first _ here]
        split
        · rfl
        next v rest' taken =>
          simp only
          split
          next tail' comma => exact later _ v rest' tail' _ here taken comma
          · rfl
          · rfl
      · rfl
  · rfl

end

-- By induction on the fuel. Each bracket and each comma is a character of its own, so two units of fuel for every
-- character that is left are enough, and what comes out does not depend on how much more there is.
theorem fuel_irrelevant (fuel : ℕ) :
    (∀ n cs more, 2 * cs.length < fuel → 2 * cs.length < more → value fuel n cs = value more n cs) ∧
      (∀ n cs more, 2 * cs.length + 1 < fuel → 2 * cs.length + 1 < more → items fuel n cs = items more n cs) ∧
      ∀ n read cs more, 2 * cs.length + 1 < fuel → 2 * cs.length + 1 < more →
        members fuel n read cs = members more n read cs := by
  induction fuel with
  | zero => exact ⟨fun _ _ _ none => by omega, fun _ _ _ none => by omega, fun _ _ _ _ none => by omega⟩
  | succ fuel ih =>
    obtain ⟨values, lists, objects⟩ := ih
    refine ⟨fun n cs more enough enough' => ?_, fun n cs more enough enough' => ?_,
      fun n read cs more enough enough' => ?_⟩
    · obtain ⟨more, rfl⟩ : ∃ k, more = k + 1 := ⟨more - 1, by omega⟩
      have inside : ∀ c rest, cs = c :: rest → 2 * (skipSpace rest).length + 2 < fuel + 1 ∧
          2 * (skipSpace rest).length + 2 < more + 1 := by
        rintro c rest rfl
        have blank := length_skipSpace_le rest
        rw [List.length_cons] at enough enough'
        omega
      refine value_congr (fun rest text => ?_) (fun rest text => ?_)
      · obtain ⟨room, room'⟩ := inside _ rest text
        exact lists _ _ _ (by omega) (by omega)
      · obtain ⟨room, room'⟩ := inside _ rest text
        exact objects _ _ _ _ (by omega) (by omega)
    · obtain ⟨more, rfl⟩ : ∃ k, more = k + 1 := ⟨more - 1, by omega⟩
      refine items_congr (values _ _ _ (by omega) (by omega)) fun v rest tail read comma => ?_
      have taken := (reaches_of_value read).length_le
      have left := length_of_skipSpace comma
      exact lists _ _ _ (by omega) (by omega)
    · obtain ⟨more, rfl⟩ : ∃ k, more = k + 1 := ⟨more - 1, by omega⟩
      refine members_congr (fun here named => ?_) (fun here v rest tail read' named taken comma => ?_) read
      · have behind := named.length_lt
        exact values _ _ _ (by omega) (by omega)
      · have behind := named.length_lt
        have taken := (reaches_of_value taken).length_le
        have left := length_of_skipSpace comma
        exact objects _ _ _ _ (by omega) (by omega)

/-- What reading a value at a depth comes to. -/
def readAt (n : ℕ) (cs : List Char) : Except Failure (Value × List Char) := value (2 * cs.length + 1) n cs

theorem value_eq_readAt {fuel n : ℕ} {cs : List Char} (enough : 2 * cs.length < fuel) :
    value fuel n cs = readAt n cs :=
  (fuel_irrelevant fuel).1 n cs _ enough (Nat.lt_succ_self _)

theorem eq_error_of_consUnit_eq_error {n : ℕ} {u : Units} {e : Failure} (h : consUnit n u = .error e) :
    u = .error e := by
  cases u with
  | ok p => cases h
  | error e' =>
    cases h
    rfl

/-- A fault of the grammar. -/
def Failure.IsMalformed (e : Failure) : Prop := ∃ what left, e = .malformed what left

/-- Nothing but the grammar of a string can be wrong. -/
theorem isMalformed_of_stringUnits {start : ℕ} {cs : List Char} {e : Failure}
    (h : stringUnits start cs = .error e) : e.IsMalformed := by
  fun_induction stringUnits start cs with
  | case2 tail => cases h
  | case5 a b c d tail code digits more ih => exact ih (eq_error_of_consUnit_eq_error h)
  | case7 letter tail other char short ih => exact ih (eq_error_of_consUnit_eq_error h)
  | case11 c tail quote last code escape visible ih => exact ih (eq_error_of_consUnit_eq_error h)
  | _ =>
    cases h
    exact ⟨_, _, rfl⟩

theorem isMalformed_of_stringBody {cs : List Char} {e : Failure} (h : stringBody cs = .error e) :
    e.IsMalformed := by
  unfold stringBody at h
  cases read : stringUnits (cs.length + 1) cs with
  | error e =>
    rw [read] at h
    cases h
    exact isMalformed_of_stringUnits read
  | ok p =>
    rw [read] at h
    cases h

/-- An integer with so many digits and no leading zero, which neither a fraction nor an exponent follows. -/
structure Integer (count : ℕ) (digits after : List Char) : Prop where
  count : digits.length = count
  written : ∀ c ∈ digits, c.isDigit = true
  first : digits.head? ≠ some '0'
  whole : ∀ c ∈ after.head?, c.isDigit = false
  fraction : fraction after = none
  exponent : exponent after = none

theorem Integer.exists_cons {count : ℕ} {digits after : List Char} (h : Integer count digits after)
    (long : Numeral.limit < count) : ∃ c tail, digits = c :: tail := by
  cases digits with
  | nil =>
    rw [← h.count] at long
    cases long
  | cons c tail => exact ⟨c, tail, rfl⟩

/-- A value that reading stops at, with so many lists and objects open: one more of them where no more are allowed, or
an integer with too many digits. -/
def Cause (n : ℕ) : Failure → List Char → Prop
  | .malformed _ _, _ => False
  | .tooDeep, here => depthLimit ≤ n ∧ ∃ c tail, here = c :: tail ∧ (c = '[' ∨ c = '\x7b')
  | .overlong o, here => Numeral.limit < o.digits ∧
      ∃ sign digits after, here = sign ++ digits ++ after ∧ (sign = [] ∨ sign = ['-']) ∧ Integer o.digits digits after

/-- A number that is not read is none, or an integer with too many digits. -/
theorem integer_of_unsigned {start : ℕ} {negative : Bool} {cs : List Char} {e : Failure}
    (h : unsigned start negative cs = .error e) (grave : ¬ e.IsMalformed) :
    ∃ o digits after, e = .overlong o ∧ cs = digits ++ after ∧ Numeral.limit < o.digits ∧
      Integer o.digits digits after := by
  unfold unsigned at h
  split at h
  · cases h
    exact absurd ⟨_, _, rfl⟩ grave
  next whole tail digits =>
    obtain ⟨rfl, digit, stops⟩ := eq_of_wholeDigits digits
    split at h
    next fraction exponent =>
      rw [fraction, Option.map_none, Option.getD_none] at exponent
      split at h
      · cases h
      next o long =>
        cases h
        unfold Numeral.read at long
        split at long
        next longer =>
          cases long
          have several : 1 < whole.length := Nat.lt_trans (by decide) longer
          obtain ⟨first, stop⟩ := stops several
          exact ⟨⟨whole.length⟩, whole, tail, rfl, rfl, longer, rfl, digit, first, stop, fraction, exponent⟩
        · cases long
    all_goals cases h

theorem cause_of_atom {here : List Char} {e : Failure} (n : ℕ) (h : atom here = .error e) (grave : ¬ e.IsMalformed) :
    Cause n e here := by
  unfold atom at h
  split at h
  · cases h
  · split at h
    next tail _ =>
      obtain ⟨o, digits, after, rfl, rfl, long, integer⟩ := integer_of_unsigned h grave
      exact ⟨long, ['-'], digits, after, rfl, .inr rfl, integer⟩
    · obtain ⟨o, digits, after, rfl, rfl, long, integer⟩ := integer_of_unsigned h grave
      exact ⟨long, [], digits, after, rfl, .inl rfl, integer⟩

theorem unsigned_of_integer {o : Overlong} {digits after : List Char} (start : ℕ) (negative : Bool)
    (long : Numeral.limit < o.digits) (integer : Integer o.digits digits after) :
    unsigned start negative (digits ++ after) = .error (.overlong o) := by
  obtain ⟨c, digits, rfl⟩ := integer.exists_cons long
  obtain ⟨count, written, first, whole, fraction, exponent⟩ := integer
  have other : c ≠ '0' := by simpa using first
  simp only [unsigned, wholeDigits_append written other whole, fraction, exponent, Option.map_none,
    Option.getD_none, Numeral.read, count, if_pos long]

/-- Reading stops there, whatever follows. -/
theorem value_of_cause {n : ℕ} {e : Failure} {here : List Char} (cause : Cause n e here) (fuel : ℕ) :
    value (fuel + 1) n here = .error e := by
  cases e with
  | malformed what left => exact cause.elim
  | tooDeep =>
    obtain ⟨deep, c, tail, rfl, rfl | rfl⟩ := cause
    · exact if_pos deep
    · exact if_pos deep
  | overlong o =>
    obtain ⟨long, sign, digits, after, rfl, signed, integer⟩ := cause
    have number := fun start negative => unsigned_of_integer start negative long integer
    obtain ⟨c, digits, rfl⟩ := integer.exists_cons long
    have digit : c.isDigit = true := integer.written c List.mem_cons_self
    have other : ∀ {d : Char}, d.isDigit = false → c ≠ d := fun h => (ne_of_isDigit digit h).symm
    rcases signed with rfl | rfl
    · rw [List.cons_append] at number
      rw [List.nil_append, List.cons_append]
      rw [value_of_atom (other (by decide)) (other (by decide)) (other (by decide)), atom, words_digit digit]
      · exact number _ _
      · intro tail minus
        exact other (d := '-') (by decide) (List.cons.inj minus).1
    · rw [List.cons_append] at number
      rw [List.append_assoc, List.cons_append, List.cons_append, List.nil_append]
      rw [value_of_atom (by decide) (by decide) (by decide), atom, words_minus digit]
      exact number _ _

/-- What the innermost brackets around a value make of it. -/
inductive Enclosure
  | list
  | object

/-- The values to which reading a text comes, each with what encloses it, with how many lists and objects are open there
and with all that is left. -/
inductive Comes (text : List Char) : Option Enclosure → ℕ → List Char → Prop
  | start (unmarked : text.head?.map (·.toNat) ≠ some 0xFEFF) : Comes text none 0 (skipSpace text)
  | item {k : Option Enclosure} {n : ℕ} {rest : List Char} (outer : Comes text k n ('[' :: rest)) (room : n < depthLimit)
      (filled : ∀ tail, skipSpace rest ≠ ']' :: tail) : Comes text (some .list) (n + 1) (skipSpace rest)
  | nextItem {n : ℕ} {here rest tail : List Char} {v : Value} (inside : Comes text (some .list) n here)
      (read : readAt n here = .ok (v, rest)) (comma : skipSpace rest = ',' :: tail) :
      Comes text (some .list) n (skipSpace tail)
  | member {k : Option Enclosure} {n : ℕ} {rest here : List Char} (outer : Comes text k n ('\x7b' :: rest))
      (room : n < depthLimit) (named : Named (skipSpace rest) here) : Comes text (some .object) (n + 1) here
  | nextMember {n : ℕ} {here rest tail here' : List Char} {v : Value} (inside : Comes text (some .object) n here)
      (read : readAt n here = .ok (v, rest)) (comma : skipSpace rest = ',' :: tail)
      (named : Named (skipSpace tail) here') : Comes text (some .object) n here'

/-- Reading a text stops for good at one of the values to which it comes. -/
def Stuck (text : List Char) (e : Failure) : Prop := ∃ k n here, Comes text k n here ∧ Cause n e here

section

variable {text : List Char} {fuel : ℕ} {e : Failure}

theorem stuck_of_value (grave : ¬ e.IsMalformed)
    (lists : ∀ n here, items fuel n here = .error e → 2 * here.length + 1 < fuel →
      Comes text (some .list) n here → Stuck text e)
    (objects : ∀ n read cs, members fuel n read cs = .error e → 2 * cs.length + 1 < fuel →
      (∀ here, Named cs here → Comes text (some .object) n here) → Stuck text e)
    {k : Option Enclosure} {n : ℕ} {here : List Char} (failed : value (fuel + 1) n here = .error e)
    (enough : 2 * here.length < fuel + 1) (comes : Comes text k n here) : Stuck text e := by
  unfold value at failed
  split at failed
  next rest =>
    cases body : stringBody rest with
    | error f =>
      rw [body] at failed
      cases failed
      exact absurd (isMalformed_of_stringBody body) grave
    | ok r => rw [body] at failed; cases failed
  next rest =>
    have blank := length_skipSpace_le rest
    rw [List.length_cons] at enough
    split at failed
    next deep =>
      cases failed
      exact ⟨k, n, _, comes, deep, '[', rest, rfl, .inl rfl⟩
    next room =>
      split at failed
      · cases failed
      next body filled =>
        split at failed
        · cases failed
        next f inside =>
          cases failed
          exact lists _ _ inside (by omega) (.item comes (Nat.not_le.mp room) filled)
  next rest =>
    have blank := length_skipSpace_le rest
    rw [List.length_cons] at enough
    split at failed
    next deep =>
      cases failed
      exact ⟨k, n, _, comes, deep, '\x7b', rest, rfl, .inr rfl⟩
    next room =>
      split at failed
      · cases failed
      · split at failed
        · cases failed
        next f inside =>
          cases failed
          exact objects _ _ _ inside (by omega) fun _ named => .member comes (Nat.not_le.mp room) named
  · exact ⟨k, n, here, comes, cause_of_atom n failed grave⟩

theorem stuck_of_items (grave : ¬ e.IsMalformed)
    (values : ∀ k n here, value fuel n here = .error e → 2 * here.length < fuel → Comes text k n here → Stuck text e)
    (lists : ∀ n here, items fuel n here = .error e → 2 * here.length + 1 < fuel →
      Comes text (some .list) n here → Stuck text e)
    {n : ℕ} {here : List Char} (failed : items (fuel + 1) n here = .error e)
    (enough : 2 * here.length + 1 < fuel + 1) (comes : Comes text (some .list) n here) : Stuck text e := by
  unfold items at failed
  split at failed
  next f first =>
    cases failed
    exact values _ _ _ first (by omega) comes
  next v rest read =>
    have taken := (reaches_of_value read).length_le
    rw [value_eq_readAt (by omega)] at read
    split at failed
    next tail comma =>
      have left := length_of_skipSpace comma
      split at failed
      · cases failed
      next f later =>
        cases failed
        exact lists _ _ later (by omega) (.nextItem comes read comma)
    · cases failed
    · cases failed
      exact absurd ⟨_, _, rfl⟩ grave

theorem stuck_of_members (grave : ¬ e.IsMalformed)
    (values : ∀ k n here, value fuel n here = .error e → 2 * here.length < fuel → Comes text k n here → Stuck text e)
    (objects : ∀ n read cs, members fuel n read cs = .error e → 2 * cs.length + 1 < fuel →
      (∀ here, Named cs here → Comes text (some .object) n here) → Stuck text e)
    {n : ℕ} {read : List (String × Value)} {cs : List Char} (failed : members (fuel + 1) n read cs = .error e)
    (enough : 2 * cs.length + 1 < fuel + 1) (comes : ∀ here, Named cs here → Comes text (some .object) n here) :
    Stuck text e := by
  unfold members at failed
  split at failed
  next body =>
    split at failed
    next f named =>
      cases failed
      exact absurd (isMalformed_of_stringBody named) grave
    next key rest name =>
      split at failed
      next tail colon =>
        have named : Named ('"' :: body) (skipSpace tail) := ⟨body, key, rest, tail, rfl, name, colon, rfl⟩
        have behind := named.length_lt
        split at failed
        next f first =>
          cases failed
          exact values _ _ _ first (by omega) (comes _ named)
        next v rest' taken =>
          have shorter := (reaches_of_value taken).length_le
          rw [value_eq_readAt (by omega)] at taken
          simp only at failed
          split at failed
          next tail' comma =>
            have left := length_of_skipSpace comma
            exact objects _ _ _ failed (by omega) fun _ next => .nextMember (comes _ named) taken comma next
          · cases failed
          · cases failed
            exact absurd ⟨_, _, rfl⟩ grave
      · cases failed
        exact absurd ⟨_, _, rfl⟩ grave
  · cases failed
    exact absurd ⟨_, _, rfl⟩ grave

-- By induction on the fuel: what fails further on fails at a value to which reading comes, too.
theorem stuck_of_failed (text : List Char) (grave : ¬ e.IsMalformed) (fuel : ℕ) :
    (∀ k n here, value fuel n here = .error e → 2 * here.length < fuel → Comes text k n here → Stuck text e) ∧
      (∀ n here, items fuel n here = .error e → 2 * here.length + 1 < fuel →
        Comes text (some .list) n here → Stuck text e) ∧
      ∀ n read cs, members fuel n read cs = .error e → 2 * cs.length + 1 < fuel →
        (∀ here, Named cs here → Comes text (some .object) n here) → Stuck text e := by
  induction fuel with
  | zero =>
    exact ⟨fun _ _ _ _ none => absurd none (Nat.not_lt_zero _), fun _ _ _ none => absurd none (Nat.not_lt_zero _),
      fun _ _ _ _ none => absurd none (Nat.not_lt_zero _)⟩
  | succ fuel ih =>
    obtain ⟨values, lists, objects⟩ := ih
    exact ⟨fun _ _ _ => stuck_of_value grave lists objects, fun _ _ => stuck_of_items grave values lists,
      fun _ _ _ => stuck_of_members grave values objects⟩

/-- What reading goes on with behind a value, fails. -/
def Breaks (e : Failure) : Option Enclosure → ℕ → List Char → Prop
  | none, n, here => ∀ fuel, 2 * here.length < fuel → value fuel n here = .error e
  | some .list, n, here => ∀ fuel, 2 * here.length + 1 < fuel → items fuel n here = .error e
  | some .object, n, here => ∀ fuel cs read, Named cs here → 2 * cs.length + 1 < fuel →
      members fuel n read cs = .error e

/-- If a value is not read, that which it is a part of is not read either. -/
theorem breaks_of_value {n : ℕ} {here : List Char} (k : Option Enclosure)
    (failed : ∀ fuel, 2 * here.length < fuel → value fuel n here = .error e) : Breaks e k n here := by
  cases k with
  | none => exact failed
  | some kind =>
    cases kind with
    | list =>
      intro fuel enough
      obtain ⟨fuel, rfl⟩ := Nat.exists_eq_add_of_lt enough
      simp [items, failed (2 * here.length + 1 + fuel) (by omega)]
    | object =>
      intro fuel cs read named enough
      have behind := named.length_lt
      obtain ⟨body, key, rest, tail, rfl, name, colon, rfl⟩ := named
      obtain ⟨fuel, rfl⟩ : ∃ m, fuel = m + 1 := ⟨fuel - 1, by omega⟩
      simp [members, name, colon, failed fuel (by omega)]

/-- A text is not read if reading comes to a value and does not get on from there. -/
theorem read_of_breaks {k : Option Enclosure} {n : ℕ} {here : List Char} (comes : Comes text k n here)
    (breaks : Breaks e k n here) : read text = .error e := by
  induction comes with
  | start unmarked =>
    have blank := length_skipSpace_le text
    rw [read, if_neg unmarked, breaks (2 * text.length + 2) (by omega)]
  | @item k n rest outer room filled ih =>
    refine ih (breaks_of_value k fun fuel enough => ?_)
    have blank := length_skipSpace_le rest
    rw [List.length_cons] at enough
    obtain ⟨fuel, rfl⟩ : ∃ m, fuel = m + 1 := ⟨fuel - 1, by omega⟩
    have inside : items fuel (n + 1) (skipSpace rest) = .error e := breaks fuel (by omega)
    rw [value, if_neg (Nat.not_le.mpr room)]
    split
    next tail closed => exact absurd closed (filled tail)
    · rw [inside]
  | @nextItem n here rest tail v inside read comma ih =>
    refine ih fun fuel enough => ?_
    obtain ⟨fuel, rfl⟩ : ∃ m, fuel = m + 1 := ⟨fuel - 1, by omega⟩
    have taken := (reaches_of_value read).length_le
    have left := length_of_skipSpace comma
    have first : value fuel n here = .ok (v, rest) := (value_eq_readAt (by omega)).trans read
    have later : items fuel n (skipSpace tail) = .error e := breaks fuel (by omega)
    simp [items, first, comma, later]
  | @member k n rest here outer room named ih =>
    refine ih (breaks_of_value k fun fuel enough => ?_)
    have blank := length_skipSpace_le rest
    rw [List.length_cons] at enough
    obtain ⟨fuel, rfl⟩ : ∃ m, fuel = m + 1 := ⟨fuel - 1, by omega⟩
    have inside : members fuel (n + 1) [] (skipSpace rest) = .error e := breaks fuel _ [] named (by omega)
    obtain ⟨body, -, -, -, quote, -⟩ := named
    rw [value, if_neg (Nat.not_le.mpr room)]
    split
    next tail closed =>
      rw [quote] at closed
      cases closed
    · rw [inside]
  | @nextMember n here rest tail here' v inside read comma named ih =>
    refine ih fun fuel cs read' named' enough => ?_
    obtain ⟨fuel, rfl⟩ : ∃ m, fuel = m + 1 := ⟨fuel - 1, by omega⟩
    have behind := named'.length_lt
    have taken := (reaches_of_value read).length_le
    have left := length_of_skipSpace comma
    have first : value fuel n here = .ok (v, rest) := (value_eq_readAt (by omega)).trans read
    have later : ∀ more, members fuel n more (skipSpace tail) = .error e :=
      fun more => breaks fuel _ more named (by omega)
    obtain ⟨body, key, rest', tail', rfl, name, colon, rfl⟩ := named'
    simp [members, name, colon, first, comma, later]

/-- Reading fails other than by grammar exactly where it is stuck. -/
theorem read_eq_error_iff (grave : ¬ e.IsMalformed) : read text = .error e ↔ Stuck text e := by
  constructor
  · intro failed
    unfold read at failed
    split at failed
    · cases failed
      exact absurd ⟨_, _, rfl⟩ grave
    next unmarked =>
      have blank := length_skipSpace_le text
      split at failed
      next f whole =>
        cases failed
        exact (stuck_of_failed text grave _).1 _ _ _ whole (by omega) (.start unmarked)
      next v rest taken =>
        simp only at failed
        split at failed
        · cases failed
        · cases failed
          exact absurd ⟨_, _, rfl⟩ grave
  · rintro ⟨k, n, here, comes, cause⟩
    refine read_of_breaks comes (breaks_of_value k fun fuel enough => ?_)
    obtain ⟨fuel, rfl⟩ : ∃ m, fuel = m + 1 := ⟨fuel - 1, by omega⟩
    exact value_of_cause cause fuel

/-- Where reading comes to a value, as many lists and objects are open as brackets in front of it, outside of strings,
are not yet closed. -/
theorem Comes.leads {k : Option Enclosure} {n : ℕ} {here : List Char} (comes : Comes text k n here) :
    ∃ p, text = p ++ here ∧ Leads 0 p n := by
  have further : ∀ {n here here'}, (∃ p, text = p ++ here ∧ Leads 0 p n) → Reaches n here here' →
      ∃ p, text = p ++ here' ∧ Leads 0 p n := by
    rintro n here here' ⟨p, text, leads⟩ ⟨q, rfl, leads'⟩
    exact ⟨p ++ q, by rw [text, List.append_assoc], leads.append leads'⟩
  have within : ∀ {n c rest}, (∃ p, text = p ++ c :: rest ∧ Leads 0 p n) → c = '[' ∨ c = '\x7b' →
      ∃ p, text = p ++ rest ∧ Leads 0 p (n + 1) := by
    rintro n c rest ⟨p, text, leads⟩ bracket
    exact ⟨p ++ [c], by rw [text, List.append_assoc]; rfl, leads.append (leads_open bracket)⟩
  induction comes with
  | start unmarked => exact (skips_skipSpace text).reaches 0
  | @item k n rest outer room filled ih =>
    exact further (within ih (.inl rfl)) ((skips_skipSpace rest).reaches (n + 1))
  | @nextItem n here rest tail v inside read comma ih =>
    exact further ih ((reaches_of_value read).mark comma (by decide))
  | @member k n rest here outer room named ih =>
    exact further (within ih (.inr rfl)) (((skips_skipSpace rest).reaches (n + 1)).trans (named.reaches (n + 1)))
  | @nextMember n here rest tail here' v inside read comma named ih =>
    exact further ih (((reaches_of_value read).mark comma (by decide)).trans (named.reaches n))

/-- Only a long text is stuck. -/
theorem Stuck.length_lt (stuck : Stuck text e) : depthLimit < text.length := by
  obtain ⟨k, n, here, comes, cause⟩ := stuck
  obtain ⟨p, rfl, leads⟩ := comes.leads
  rw [List.length_append]
  cases e with
  | malformed what left => exact cause.elim
  | tooDeep =>
    obtain ⟨deep, c, tail, rfl, -⟩ := cause
    have bound := leads.le
    rw [List.length_cons]
    omega
  | overlong o =>
    obtain ⟨long, sign, digits, after, rfl, -, integer⟩ := cause
    have count := integer.count
    have less : depthLimit ≤ Numeral.limit := by decide
    rw [List.length_append, List.length_append]
    omega

end

end Stepwise.Json
