import Stepwise.Text.Flaw

/-!
The UTF-8 form of a text. Reading splits the bytes into characters and malformed stretches, each
stretch being the longest start of a well-formed sequence; a strict reader refuses them, a lenient
one shows each as one replacement character.
-/

namespace Stepwise.Text.Utf8

/-- The bytes of one character. -/
def encodeChar (c : Char) : List UInt8 :=
  let n := c.toNat
  if n < 0x80 then [n.toUInt8]
  else if n < 0x800 then [(0xC0 + n / 64).toUInt8, (0x80 + n % 64).toUInt8]
  else if n < 0x10000 then
    [(0xE0 + n / 4096).toUInt8, (0x80 + n / 64 % 64).toUInt8, (0x80 + n % 64).toUInt8]
  else
    [(0xF0 + n / 262144).toUInt8, (0x80 + n / 4096 % 64).toUInt8, (0x80 + n / 64 % 64).toUInt8,
      (0x80 + n % 64).toUInt8]

/-- The bytes of a text. -/
def encode (cs : List Char) : List UInt8 := cs.flatMap encodeChar

/-- The payload of a continuation byte that lies between two bounds. -/
def tail? (low high : Nat) (b : UInt8) : Option Nat :=
  if low ≤ b.toNat ∧ b.toNat ≤ high then some (b.toNat - 0x80) else none

/-- The last `n` continuation bytes: the code point, or how many bytes did fit. -/
def tails : Nat → Nat → Nat → List UInt8 → Option Char × Nat
  | 0, used, acc, _ => (some (Char.ofNat acc), used)
  | _ + 1, used, _, [] => (none, used)
  | n + 1, used, acc, b :: rest =>
    match tail? 0x80 0xBF b with
    | some v => tails n (used + 1) (acc * 64 + v) rest
    | none => (none, used)

/-- Like `tails`, with its own bounds for the first continuation byte. -/
def sequel (n low high acc : Nat) : List UInt8 → Option Char × Nat
  | [] => (none, 0)
  | b :: rest =>
    match tail? low high b with
    | some v => tails n 1 (acc * 64 + v) rest
    | none => (none, 0)

/-- What a leading byte begins: a character, or `none` for a malformed stretch, with the number of
further bytes that belong to it. -/
def lead (b : UInt8) (rest : List UInt8) : Option Char × Nat :=
  let n := b.toNat
  if n < 0x80 then (some (Char.ofNat n), 0)
  else if n < 0xC2 then (none, 0)
  else if n < 0xE0 then sequel 0 0x80 0xBF (n - 0xC0) rest
  else if n = 0xE0 then sequel 1 0xA0 0xBF 0 rest
  else if n = 0xED then sequel 1 0x80 0x9F 0xD rest
  else if n < 0xF0 then sequel 1 0x80 0xBF (n - 0xE0) rest
  else if n = 0xF0 then sequel 2 0x90 0xBF 0 rest
  else if n < 0xF4 then sequel 2 0x80 0xBF (n - 0xF0) rest
  else if n = 0xF4 then sequel 2 0x80 0x8F 4 rest
  else (none, 0)

/-- The characters and malformed stretches after `skip` bytes that are already accounted for. -/
def scan : Nat → List UInt8 → List (Option Char)
  | _, [] => []
  | skip + 1, _ :: rest => scan skip rest
  | 0, b :: rest => (lead b rest).1 :: scan (lead b rest).2 rest

/-- The text that the bytes spell, if every stretch is well formed. -/
def decode? (bytes : List UInt8) : Option (List Char) := (scan 0 bytes).mapM id

/-- The text with a replacement character for each malformed stretch. -/
def decodeLenient (bytes : List UInt8) : List Char :=
  (scan 0 bytes).map (·.getD (Char.ofNat 0xFFFD))

/-- The first malformed stretch from a position on, after `skip` bytes that are already accounted for. -/
def flaw? (position : Nat) : Nat → List UInt8 → Option Flaw
  | _, [] => none
  | skip + 1, _ :: rest => flaw? (position + 1) skip rest
  | 0, b :: rest =>
    match lead b rest with
    | (some _, used) => flaw? (position + 1) used rest
    | (none, used) =>
      let n := b.toNat
      let reason :=
        if n < 0xC2 ∨ 0xF4 < n then "invalid start byte"
        else if used = rest.length then "unexpected end of data"
        else "invalid continuation byte"
      some ⟨position, used + 1, reason⟩

/-- The text of some bytes. -/
def decode (bytes : List UInt8) : Except Flaw (List Char) :=
  match flaw? 0 0 bytes with
  | none => .ok (decodeLenient bytes)
  | some f => .error f

theorem encode_append (cs ds : List Char) : encode (cs ++ ds) = encode cs ++ encode ds := List.flatMap_append

/-! Reading what was written. -/

theorem toNat_toUInt8 {n : Nat} (small : n < 256) : n.toUInt8.toNat = n := by
  simp [Nat.toUInt8, Nat.mod_eq_of_lt small]

theorem tail?_of_le {low high v : Nat} (small : v < 64) (above : low ≤ 0x80 + v) (below : 0x80 + v ≤ high) :
    tail? low high (0x80 + v).toUInt8 = some v := by
  rw [tail?, toNat_toUInt8 (by omega), if_pos ⟨above, below⟩, Nat.add_sub_cancel_left]

theorem tails_cons {n used acc v : Nat} (small : v < 64) (rest : List UInt8) :
    tails (n + 1) used acc ((0x80 + v).toUInt8 :: rest) = tails n (used + 1) (acc * 64 + v) rest := by
  rw [tails, tail?_of_le small (by omega) (by omega)]

theorem sequel_cons {n low high acc v : Nat} (small : v < 64) (above : low ≤ 0x80 + v) (below : 0x80 + v ≤ high)
    (rest : List UInt8) :
    sequel n low high acc ((0x80 + v).toUInt8 :: rest) = tails n 1 (acc * 64 + v) rest := by
  rw [sequel, tail?_of_le small above below]

section

variable {n : Nat} (rest : List UInt8)

theorem lead_two (two : 0x80 ≤ n) (most : n < 0x800) :
    lead (0xC0 + n / 64).toUInt8 ([(0x80 + n % 64).toUInt8] ++ rest) = (some (Char.ofNat n), 1) := by
  have whole : n / 64 * 64 + n % 64 = n := by omega
  rw [lead, toNat_toUInt8 (by omega)]
  simp only [if_neg (show ¬ 0xC0 + n / 64 < 0x80 by omega), if_neg (show ¬ 0xC0 + n / 64 < 0xC2 by omega),
    if_pos (show 0xC0 + n / 64 < 0xE0 by omega), Nat.add_sub_cancel_left, List.cons_append, List.nil_append]
  rw [sequel_cons (by omega) (by omega) (by omega), whole]
  rfl

/-- The first tail is held to narrower bounds after the leading bytes of the lowest code points and of those next
to the surrogates. -/
theorem lead_three (three : 0x800 ≤ n) (most : n < 0x10000) (valid : n < 0xD800 ∨ 0xDFFF < n) :
    lead (0xE0 + n / 4096).toUInt8 ([(0x80 + n / 64 % 64).toUInt8, (0x80 + n % 64).toUInt8] ++ rest) =
      (some (Char.ofNat n), 2) := by
  have whole : (n / 4096 * 64 + n / 64 % 64) * 64 + n % 64 = n := by omega
  have follow {low high : Nat} (above : low ≤ 0x80 + n / 64 % 64) (below : 0x80 + n / 64 % 64 ≤ high) :
      sequel 1 low high (n / 4096) ([(0x80 + n / 64 % 64).toUInt8, (0x80 + n % 64).toUInt8] ++ rest) =
        (some (Char.ofNat n), 2) := by
    rw [List.cons_append, List.cons_append, sequel_cons (by omega) above below, tails_cons (by omega), whole]
    rfl
  rw [lead, toNat_toUInt8 (by omega)]
  simp only [if_neg (show ¬ 0xE0 + n / 4096 < 0x80 by omega), if_neg (show ¬ 0xE0 + n / 4096 < 0xC2 by omega),
    if_neg (show ¬ 0xE0 + n / 4096 < 0xE0 by omega), if_pos (show 0xE0 + n / 4096 < 0xF0 by omega),
    Nat.add_sub_cancel_left]
  by_cases least : 0xE0 + n / 4096 = 0xE0
  · have zero : n / 4096 = 0 := by omega
    rw [if_pos least, ← zero]
    exact follow (by omega) (by omega)
  rw [if_neg least]
  by_cases gap : 0xE0 + n / 4096 = 0xED
  · have thirteen : n / 4096 = 0xD := by omega
    rw [if_pos gap, ← thirteen]
    exact follow (by omega) (by omega)
  rw [if_neg gap]
  exact follow (by omega) (by omega)

/-- Here it is after the leading bytes of the lowest and the highest code points. -/
theorem lead_four (four : 0x10000 ≤ n) (most : n < 0x110000) :
    lead (0xF0 + n / 262144).toUInt8
        ([(0x80 + n / 4096 % 64).toUInt8, (0x80 + n / 64 % 64).toUInt8, (0x80 + n % 64).toUInt8] ++ rest) =
      (some (Char.ofNat n), 3) := by
  have whole : ((n / 262144 * 64 + n / 4096 % 64) * 64 + n / 64 % 64) * 64 + n % 64 = n := by omega
  have follow {low high : Nat} (above : low ≤ 0x80 + n / 4096 % 64) (below : 0x80 + n / 4096 % 64 ≤ high) :
      sequel 2 low high (n / 262144)
          ([(0x80 + n / 4096 % 64).toUInt8, (0x80 + n / 64 % 64).toUInt8, (0x80 + n % 64).toUInt8] ++ rest) =
        (some (Char.ofNat n), 3) := by
    rw [List.cons_append, List.cons_append, List.cons_append, sequel_cons (by omega) above below,
      tails_cons (by omega), tails_cons (by omega), whole]
    rfl
  rw [lead, toNat_toUInt8 (by omega)]
  simp only [if_neg (show ¬ 0xF0 + n / 262144 < 0x80 by omega), if_neg (show ¬ 0xF0 + n / 262144 < 0xC2 by omega),
    if_neg (show ¬ 0xF0 + n / 262144 < 0xE0 by omega), if_neg (show ¬ 0xF0 + n / 262144 = 0xE0 by omega),
    if_neg (show ¬ 0xF0 + n / 262144 = 0xED by omega), if_neg (show ¬ 0xF0 + n / 262144 < 0xF0 by omega),
    Nat.add_sub_cancel_left]
  by_cases least : 0xF0 + n / 262144 = 0xF0
  · have zero : n / 262144 = 0 := by omega
    rw [if_pos least, ← zero]
    exact follow (by omega) (by omega)
  rw [if_neg least]
  by_cases middle : 0xF0 + n / 262144 < 0xF4
  · rw [if_pos middle]
    exact follow (by omega) (by omega)
  · have last : n / 262144 = 4 := by omega
    rw [if_neg middle, if_pos (show 0xF0 + n / 262144 = 0xF4 by omega), ← last]
    exact follow (by omega) (by omega)

end

/-- A character is read from its own bytes, whatever follows them. -/
theorem lead_encodeChar (c : Char) : ∃ b tail, encodeChar c = b :: tail ∧
    ∀ rest, lead b (tail ++ rest) = (some c, tail.length) := by
  have valid : c.toNat < 0xD800 ∨ 0xDFFF < c.toNat ∧ c.toNat < 0x110000 := c.valid
  have again : Char.ofNat c.toNat = c := Char.ofNat_toNat c
  unfold encodeChar
  generalize c.toNat = n at valid again
  subst again
  by_cases one : n < 0x80
  · refine ⟨_, [], if_pos one, fun rest => ?_⟩
    rw [lead, toNat_toUInt8 (by omega), if_pos one]
    rfl
  by_cases two : n < 0x800
  · refine ⟨_, _, by simp only [if_neg one, if_pos two]; rfl, fun rest => ?_⟩
    exact lead_two rest (by omega) two
  by_cases three : n < 0x10000
  · refine ⟨_, _, by simp only [if_neg one, if_neg two, if_pos three]; rfl, fun rest => ?_⟩
    exact lead_three rest (by omega) three (by omega)
  · refine ⟨_, _, by simp only [if_neg one, if_neg two, if_neg three]; rfl, fun rest => ?_⟩
    exact lead_four rest (by omega) (by omega)

theorem scan_skip (tail rest : List UInt8) : scan tail.length (tail ++ rest) = scan 0 rest := by
  induction tail with
  | nil => rfl
  | cons b tail ih => exact ih

theorem flaw?_skip (position : Nat) (tail rest : List UInt8) :
    flaw? position tail.length (tail ++ rest) = flaw? (position + tail.length) 0 rest := by
  induction tail generalizing position with
  | nil => rfl
  | cons b tail ih =>
    have later : position + (b :: tail).length = position + 1 + tail.length := by
      rw [List.length_cons]
      omega
    rw [later]
    exact ih (position + 1)

theorem scan_encode (cs : List Char) : scan 0 (encode cs) = cs.map some := by
  induction cs with
  | nil => rfl
  | cons c cs ih =>
    obtain ⟨b, tail, bytes, read⟩ := lead_encodeChar c
    have split : encode (c :: cs) = b :: (tail ++ encode cs) := by rw [encode, List.flatMap_cons, bytes]; rfl
    rw [split, scan, read, scan_skip, ih]
    rfl

theorem flaw?_encode (position : Nat) (cs : List Char) : flaw? position 0 (encode cs) = none := by
  induction cs generalizing position with
  | nil => rfl
  | cons c cs ih =>
    obtain ⟨b, tail, bytes, read⟩ := lead_encodeChar c
    have split : encode (c :: cs) = b :: (tail ++ encode cs) := by rw [encode, List.flatMap_cons, bytes]; rfl
    rw [split, flaw?, read]
    exact (flaw?_skip _ tail _).trans (ih _)

/-- The bytes of a text spell this text, and there is no flaw in them. -/
theorem decode_encode (cs : List Char) : decode (encode cs) = .ok cs := by
  have same : (cs.map some).map (fun o : Option Char => o.getD (Char.ofNat 0xFFFD)) = cs := by
    rw [List.map_map]
    exact List.map_id cs
  rw [decode, flaw?_encode, decodeLenient, scan_encode, same]

end Stepwise.Text.Utf8
