import Stepwise.Number.Double

/-!
Values that steps produce and hand to one another: the JSON values, with integers and floating-point
numbers apart and object members in order, and handles for whatever has no JSON form.
-/

namespace Stepwise

/-- A value; `handle` is an object of the running program, known by its label. -/
inductive Value
  | null
  | bool (b : Bool)
  | int (i : Int)
  | double (d : Double)
  | text (s : String)
  | list (items : List Value)
  | object (members : List (String × Value))
  | handle (label : String)
  deriving Repr, Inhabited

namespace Value

mutual

/-- Structural equality. -/
def same : Value → Value → Bool
  | null, null => true
  | bool a, bool b => a == b
  | int a, int b => a == b
  | double a, double b => a == b
  | text a, text b => a == b
  | list a, list b => sameItems a b
  | object a, object b => sameMembers a b
  | handle a, handle b => a == b
  | _, _ => false

def sameItems : List Value → List Value → Bool
  | [], [] => true
  | a :: as, b :: bs => same a b && sameItems as bs
  | _, _ => false

def sameMembers : List (String × Value) → List (String × Value) → Bool
  | [], [] => true
  | (k, a) :: as, (l, b) :: bs => k == l && same a b && sameMembers as bs
  | _, _ => false

end

mutual

theorem same_iff (a b : Value) : same a b = true ↔ a = b := by
  cases a <;> cases b <;> simp [same]
  · exact sameItems_iff _ _
  · exact sameMembers_iff _ _

theorem sameItems_iff (as bs : List Value) : sameItems as bs = true ↔ as = bs := by
  cases as <;> cases bs <;> simp [sameItems, same_iff, sameItems_iff]

theorem sameMembers_iff (as bs : List (String × Value)) : sameMembers as bs = true ↔ as = bs := by
  cases as <;> cases bs <;> simp [sameMembers]
  rename_i a _ b _
  obtain ⟨k, a⟩ := a
  obtain ⟨l, b⟩ := b
  simp [same_iff, sameMembers_iff, and_assoc]

end

instance : DecidableEq Value := fun a b => decidable_of_iff _ (same_iff a b)

/-- The value of a member, by name. -/
def lookup (members : List (String × Value)) (key : String) : Option Value :=
  (members.find? (·.1 == key)).map (·.2)

/-- A member set in place, or added at the end. -/
def assign (key : String) (v : Value) : List (String × Value) → List (String × Value)
  | [] => [(key, v)]
  | (k, w) :: rest => if k = key then (k, v) :: rest else (k, w) :: assign key v rest

theorem lookup_assign (key other : String) (v : Value) (members : List (String × Value)) :
    lookup (assign key v members) other = if key = other then some v else lookup members other := by
  induction members with
  | nil => by_cases h : key = other <;> simp [assign, lookup, h]
  | cons m rest ih =>
    obtain ⟨k, w⟩ := m
    by_cases hk : k = key
    · subst hk
      by_cases h : k = other <;> simp [assign, lookup, h]
    · rw [assign, if_neg hk]
      by_cases ho : k = other
      · have h : key ≠ other := fun h => hk (ho.trans h.symm)
        simp [lookup, ho, h]
      · simpa [lookup, ho] using ih

/-- A member keeps its position when it is set again. -/
theorem keys_assign (key : String) (v : Value) (members : List (String × Value)) :
    (assign key v members).map (·.1) =
      if key ∈ members.map (·.1) then members.map (·.1) else members.map (·.1) ++ [key] := by
  induction members with
  | nil => rfl
  | cons m rest ih =>
    obtain ⟨k, w⟩ := m
    by_cases hk : k = key
    · simp [assign, hk]
    · by_cases hin : key ∈ rest.map (·.1)
      · simp only [assign, hk, ↓reduceIte, List.map_cons, ih, hin, List.mem_cons, or_true]
      · simp only [assign, hk, ↓reduceIte, List.map_cons, ih, hin, List.mem_cons, Ne.symm hk, or_self,
          List.cons_append]

/-- A member of an object; other values have none. -/
def member? (v : Value) (key : String) : Option Value :=
  match v with
  | object members => lookup members key
  | _ => none

/-- Whether a value is the absent one. -/
def isNull : Value → Bool
  | null => true
  | _ => false

/-- The text of a text value. -/
def text? : Value → Option String
  | text s => some s
  | _ => none

end Value

end Stepwise
