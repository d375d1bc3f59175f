import Stepwise.Proofs.JsonFaults
import Stepwise.Proofs.RequestChain

/-!
Replies that are too much to read. A reply becomes a plan unless reading it is stuck, because lists and objects stand in
each other too deeply or an integer has too many digits, with nothing wrong in front of that. A request is then
abandoned, as if the provider had failed; nothing else keeps one from being answered.
-/

namespace Stepwise

namespace Plan

/-- Reading the text in a reply is stuck. -/
def Oversized (reply : String) : Fault → Prop
  | .tooDeep => Json.Stuck (Fence.strip reply.toList) .tooDeep
  | .overlong o => Json.Stuck (Fence.strip reply.toList) (.overlong o)
  | _ => False

/-- A reply is a plan unless its text is not read for another reason than its grammar. -/
theorem ofReply_eq_error {reply : String} {f : Fault} : ofReply reply = .error f ↔
    ∃ e, Json.read (Fence.strip reply.toList) = .error e ∧ faultOf e = some f := by
  cases text : Json.read (Fence.strip reply.toList) with
  | ok v => cases v <;> simp [ofReply, text]
  | error e => cases fault : faultOf e <;> simp [ofReply, text, fault]

theorem ofReply_eq_error_iff {reply : String} {f : Fault} : ofReply reply = .error f ↔ Oversized reply f := by
  have deep : ¬ Json.Failure.tooDeep.IsMalformed := by rintro ⟨_, _, ⟨⟩⟩
  have long : ∀ o, ¬ (Json.Failure.overlong o).IsMalformed := by rintro o ⟨_, _, ⟨⟩⟩
  rw [ofReply_eq_error]
  constructor
  · rintro ⟨e, unread, fault⟩
    cases e with
    | malformed what left => cases fault
    | tooDeep =>
      cases fault
      exact (Json.read_eq_error_iff deep).mp unread
    | overlong o =>
      cases fault
      exact (Json.read_eq_error_iff (long o)).mp unread
  · intro large
    cases f with
    | tooDeep => exact ⟨_, (Json.read_eq_error_iff deep).mpr large, rfl⟩
    | overlong o => exact ⟨_, (Json.read_eq_error_iff (long o)).mpr large, rfl⟩
    | _ => cases large

/-- A reply becomes a plan exactly if it is not too much to read. -/
theorem ofReply_eq_ok_iff {reply : String} : (∃ steps, ofReply reply = .ok steps) ↔ ∀ f, ¬ Oversized reply f := by
  simp only [← ofReply_eq_error_iff]
  cases ofReply reply <;> simp

theorem Oversized.length_lt {reply : String} {f : Fault} (h : Oversized reply f) :
    Json.depthLimit < (Fence.strip reply.toList).length := by
  cases f with
  | tooDeep => exact Json.Stuck.length_lt h
  | overlong o => exact Json.Stuck.length_lt h
  | _ => cases h

/-- Every reply that is not longer than lists may be nested becomes a plan. -/
theorem ofReply_of_length_le {reply : String} (short : (Fence.strip reply.toList).length ≤ Json.depthLimit) :
    ∃ steps, ofReply reply = .ok steps :=
  ofReply_eq_ok_iff.mpr fun _ large => absurd large.length_lt (Nat.not_lt.mpr short)

end Plan

namespace Json

/-- Behind opening brackets reading comes to what follows them, with as many lists open. -/
theorem comes_brackets {c : Char} (begins : Begins c) (rest : List Char) (k m : ℕ) (room : k ≤ depthLimit) :
    ∃ kind, Comes (List.replicate (k + m) '[' ++ c :: rest) kind k (List.replicate m '[' ++ c :: rest) := by
  have first : ∀ m, ∃ d tail, List.replicate m '[' ++ c :: rest = d :: tail ∧ Begins d := by
    intro m
    cases m with
    | zero => exact ⟨c, rest, rfl, begins⟩
    | succ m => exact ⟨'[', List.replicate m '[' ++ c :: rest, rfl, begins_of_mem (by decide)⟩
  have visible : ∀ m, skipSpace (List.replicate m '[' ++ c :: rest) = List.replicate m '[' ++ c :: rest := by
    intro m
    obtain ⟨d, tail, text, begins⟩ := first m
    rw [text, skipSpace_cons begins.visible]
  induction k generalizing m with
  | zero =>
    obtain ⟨d, tail, text, begins⟩ := first m
    have start : Comes (List.replicate m '[' ++ c :: rest) none 0 (skipSpace (List.replicate m '[' ++ c :: rest)) :=
      .start (by simpa [text] using begins.mark)
    rw [visible] at start
    rw [Nat.zero_add]
    exact ⟨none, start⟩
  | succ k ih =>
    obtain ⟨kind, outer⟩ := ih (m + 1) (Nat.le_of_succ_le room)
    rw [List.replicate_succ, List.cons_append] at outer
    obtain ⟨d, tail, text, begins⟩ := first m
    have inside := outer.item room fun tail' closed => by
      rw [visible, text] at closed
      exact begins.bracket (List.cons.inj closed).1
    rw [visible] at inside
    rw [Nat.succ_add_eq_add_succ]
    exact ⟨_, inside⟩

/-- Brackets that are opened beyond the limit. -/
theorem stuck_of_brackets (rest : List Char) :
    Stuck (List.replicate depthLimit '[' ++ '[' :: rest) .tooDeep := by
  obtain ⟨kind, comes⟩ := comes_brackets (begins_of_mem (c := '[') (by decide)) rest depthLimit 0 (Nat.le_refl _)
  exact ⟨kind, depthLimit, _, comes, Nat.le_refl _, '[', rest, rfl, .inl rfl⟩

/-- A list that begins with an integer that has too many digits. -/
theorem stuck_of_digits {o : Overlong} {digits after : List Char} (integer : Integer o.digits digits after)
    (long : Numeral.limit < o.digits) : Stuck ('[' :: (digits ++ after)) (.overlong o) := by
  obtain ⟨c, digits, rfl⟩ := integer.exists_cons long
  have begins := begins_of_isDigit (integer.written c List.mem_cons_self)
  obtain ⟨kind, comes⟩ := comes_brackets begins (digits ++ after) 1 0 (by decide)
  exact ⟨kind, 1, _, comes, long, [], c :: digits, after, rfl, .inl rfl, integer⟩

end Json

namespace Plan

/-- A reply of brackets only, more of them than may be open. -/
theorem oversized_of_brackets (k : ℕ) :
    Oversized (String.ofList (List.replicate (Json.depthLimit + (k + 1)) '[')) .tooDeep := by
  have ends : ∀ c ∈ List.replicate (Json.depthLimit + (k + 1)) '[', Text.isBlank c = false ∧ c ≠ '\x60' := by
    intro c member
    rw [List.eq_of_mem_replicate member]
    decide
  have text : Fence.strip (List.replicate (Json.depthLimit + (k + 1)) '[') =
      List.replicate (Json.depthLimit + (k + 1)) '[' :=
    Fence.strip_eq_self (fun c first => ends c (List.mem_of_mem_head? first))
      (fun c last => ends c (List.mem_of_mem_getLast? last))
  have stuck := Json.stuck_of_brackets (List.replicate k '[')
  rw [← List.replicate_succ, ← List.replicate_add, ← text] at stuck
  rwa [Oversized, String.toList_ofList]

/-- A reply that is a list of one integer with too many digits. -/
theorem oversized_of_digits {digits : List Char} (written : ∀ c ∈ digits, c.isDigit = true)
    (first : digits.head? ≠ some '0') (long : Numeral.limit < digits.length) :
    Oversized ("[" ++ String.ofList digits ++ "]") (.overlong ⟨digits.length⟩) := by
  have whole : ("[" ++ String.ofList digits ++ "]").toList = '[' :: (digits ++ [']']) := by simp
  have text : Fence.strip ('[' :: (digits ++ [']'])) = '[' :: (digits ++ [']']) := by
    refine Fence.strip_eq_self ?_ ?_
    · rintro c ⟨⟩
      decide
    · intro c last
      rw [← List.cons_append, List.getLast?_concat] at last
      cases last
      decide
  have closed : ∀ c ∈ [']'].head?, c.isDigit = false := by
    rintro c ⟨⟩
    rfl
  have stuck := Json.stuck_of_digits (o := ⟨digits.length⟩) ⟨rfl, written, first, closed, rfl, rfl⟩ long
  rw [← text] at stuck
  rwa [Oversized, whole]

end Plan

namespace Assistant

variable {σ : Type}

/-- Why a request is not answered: the provider fails, or what the plugins make of its reply is too much to read. -/
inductive Abandoned (e : Engine σ) (request : String) (s : Session σ) : Fault → Prop
  | failed {sent : List Message} {f : Fault} {w w' : σ} {hooks : List Event} {deeds : List Deed}
      (prepared : Hooks.beforeRequest e.participants (messagesFor e s.history request) s.world = ⟨.ok sent, w, hooks⟩)
      (completed : e.complete .plan sent w = ⟨.error f, w', deeds⟩) : Abandoned e request s f
  | oversized {sent : List Message} {raw reply : String} {f : Fault} {w w' w'' : σ} {hooks hooks' : List Event}
      {deeds : List Deed}
      (prepared : Hooks.beforeRequest e.participants (messagesFor e s.history request) s.world = ⟨.ok sent, w, hooks⟩)
      (completed : e.complete .plan sent w = ⟨.ok raw, w', deeds⟩)
      (replied : Hooks.afterReply e.participants raw w' = ⟨.ok reply, w'', hooks'⟩)
      (large : Plan.Oversized reply f) : Abandoned e request s f

variable {e : Engine σ} {request : String} {s s' : Session σ} {q : Inquiry} {f : Fault}

/-- An inquiry that finds no plan tells why. -/
theorem Asked.abandoned (h : Asked e request s q s') (none : q.found = .error f) : Abandoned e request s f := by
  cases h with
  | failed prepared completed =>
    cases none
    exact .failed prepared completed
  | unreadable prepared completed replied read =>
    cases none
    exact .oversized prepared completed replied (Plan.ofReply_eq_error_iff.mp read)
  | found prepared completed replied read parsed => cases none

/-- A request that is abandoned finds no plan. -/
theorem Abandoned.asked (h : Abandoned e request s f) : ∃ q s', Asked e request s q s' ∧ q.found = .error f := by
  cases h with
  | failed prepared completed => exact ⟨_, _, .failed prepared completed, rfl⟩
  | oversized prepared completed replied large =>
    exact ⟨_, _, .unreadable prepared completed replied (Plan.ofReply_eq_error_iff.mpr large), rfl⟩

/-- A request fails exactly if it is abandoned; whatever happens once there is a plan, it is answered. -/
theorem run_eq_error_iff : (run e request s).result = .error f ↔ Abandoned e request s f := by
  rw [run_eq]
  constructor
  · intro failed
    obtain ⟨a, s', log, answered⟩ := answered_total e (recurse e (run e)) request s
    rw [answerWith_of_answered answered] at failed
    cases answered with
    | failed asked none =>
      cases failed
      exact asked.abandoned none
    | answered asked found walk => cases failed
  · intro abandoned
    obtain ⟨q, s', asked, none⟩ := abandoned.asked
    have answered : Answered e request s (recurse e (run e)) ⟨request, s, q, [], [], .error f⟩ s' q.log :=
      .failed asked none
    rw [answerWith_of_answered answered]

end Assistant

end Stepwise
