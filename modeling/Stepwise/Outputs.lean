import Stepwise.Value.Basic

/-!
The outputs of the steps of one run, in order. An index that names no output gives the empty text.
-/

namespace Stepwise

/-- Outputs in the order in which their steps completed. -/
structure Outputs where
  items : List Value
  deriving DecidableEq, Repr

namespace Outputs

def empty : Outputs := ⟨[]⟩

/-- What an index without an output stands for. -/
def absent : Value := .text ""

def size (o : Outputs) : Nat := o.items.length

def append (o : Outputs) (v : Value) : Outputs := ⟨o.items ++ [v]⟩

/-- The output at an index. -/
def get (o : Outputs) (i : Int) : Value :=
  if 0 ≤ i then o.items.getD i.toNat absent else absent

/-- The output at an index that may be any value; only integers are indices. -/
def lookup (o : Outputs) : Value → Value
  | .int i => o.get i
  | _ => absent

/-- A short description. -/
def describe (o : Outputs) : String := "OutputBuffer(size=" ++ toString o.size ++ ")"

theorem size_append (o : Outputs) (v : Value) : (o.append v).size = o.size + 1 := by
  simp [size, append]

/-- An output once added stays at its index. -/
theorem get_append_of_lt (o : Outputs) (v : Value) {i : Nat} (h : i < o.size) :
    (o.append v).get i = o.get i := by
  have h' : i < o.items.length := h
  simp [get, append, List.getElem?_append_left h']

theorem get_append_size (o : Outputs) (v : Value) : (o.append v).get o.size = v := by
  simp [get, append, size]

theorem get_of_size_le (o : Outputs) {i : Nat} (h : o.size ≤ i) : o.get i = absent := by
  have h' : o.items.length ≤ i := h
  simp [get, List.getElem?_eq_none h']

theorem get_of_neg (o : Outputs) {i : Int} (h : i < 0) : o.get i = absent := by
  simp [get, Int.not_le.mpr h]

end Outputs

end Stepwise
