/-!
Text as letters, digits and hyphens. The ASCII characters of a text come first; behind the last hyphen,
numbers tell where the other characters go, in order of their codes. A number has digits in base 36 whose
weights depend on thresholds, and these on the numbers before it.
-/

namespace Stepwise.Text.Punycode

/-- The digit of a value. -/
def digit (n : Nat) : Char := if n < 26 then Char.ofNat (0x61 + n) else Char.ofNat (0x30 + (n - 26))

/-- The value of a digit, in either case. -/
def value? (c : Char) : Option Nat :=
  if c.isAlpha then some (c.toLower.toNat - 0x61)
  else if c.isDigit then some (c.toNat - 0x30 + 26)
  else none

/-- The threshold of the digit at a place; places are multiples of 36. -/
def threshold (place bias : Nat) : Nat :=
  if place ≤ bias then 1 else if bias + 26 ≤ place then 26 else place - bias

theorem threshold_pos (place bias : Nat) : 1 ≤ threshold place bias := by
  unfold threshold
  split
  · omega
  · split <;> omega

/-- The digits of a number from a place on. -/
def digits (bias place n : Nat) : List Char :=
  let t := threshold place bias
  if n < t then [digit n]
  else digit (t + (n - t) % (36 - t)) :: digits bias (place + 36) ((n - t) / (36 - t))
termination_by n
decreasing_by
  have h := threshold_pos place bias
  calc (n - threshold place bias) / (36 - threshold place bias)
      ≤ n - threshold place bias := Nat.div_le_self _ _
    _ < n := by omega

/-- How often a number is divided until it is small, and what is left. -/
def reduced (n count : Nat) : Nat × Nat :=
  if 455 < n then reduced (n / 35) (count + 1) else (n, count)
termination_by n
decreasing_by exact Nat.div_lt_self (by omega) (by omega)

/-- The bias after a number; `size` counts the characters that are placed. -/
def adapted (n size : Nat) (isFirst : Bool) : Nat :=
  let n := if isFirst then n / 700 else n / 2
  let r := reduced (n + n / size) 0
  r.2 * 36 + 36 * r.1 / (r.1 + 38)

/-- What is known while text is written: the digits so far in reverse, the steps since the last number,
the bias, and how many characters are placed. -/
structure Writing where
  out : List Char
  steps : Nat
  bias : Nat
  placed : Nat
  deriving DecidableEq, Repr

/-- Writing after one character was passed in search of those with a code. -/
def Writing.pass (basic code : Nat) (w : Writing) (c : Char) : Writing :=
  if c.toNat < code then { w with steps := w.steps + 1 }
  else if c.toNat = code then
    ⟨(digits w.bias 36 w.steps).reverse ++ w.out, 0, adapted w.steps (w.placed + 1) (w.placed == basic),
      w.placed + 1⟩
  else w

/-- Writing after the characters with some codes, `next` being the first code that is not done. -/
def extended (cs : List Char) (basic : Nat) : Nat → List Nat → Writing → Writing
  | _, [], w => w
  | next, code :: codes, w =>
    let w := cs.foldl (Writing.pass basic code) { w with steps := w.steps + (code - next) * (w.placed + 1) }
    extended cs basic (code + 1) codes { w with steps := w.steps + 1 }

/-- The letters, digits and hyphens for a text. -/
def encode (cs : List Char) : List Char :=
  let basic := cs.filter (·.toNat < 0x80)
  let codes := ((cs.filter (0x80 ≤ ·.toNat)).map Char.toNat).mergeSort.eraseDups
  let w := extended cs basic.length 0x80 codes ⟨[], 0, 72, basic.length⟩
  basic ++ (if basic.isEmpty then [] else ['-']) ++ w.out.reverse

/-- The number at the beginning of a text, from a place on, with the weight of its digits and the sum so
far: the number and the rest of the text. -/
def number (bias : Nat) : Nat → Nat → Nat → List Char → Except String (Nat × List Char)
  | _, _, _, [] => .error "incomplete punicode string"
  | place, weight, sum, c :: rest =>
    match value? c with
    | none => .error ("Invalid extended code point '" ++ String.singleton c.toUpper ++ "'")
    | some v =>
      let t := threshold place bias
      if v < t then .ok (sum + v * weight, rest)
      else number bias (place + 36) (weight * (36 - t)) (sum + v * weight) rest

/-- The characters after at most `n` numbers are read: `code` is the last code, and `place` is where the
next character of that code may go. -/
def inserted : Nat → Nat → Nat → Nat → Bool → List Char → List Char → Except String (List Char)
  | 0, _, _, _, _, cs, _ => .ok cs
  | _, _, _, _, _, cs, [] => .ok cs
  | n + 1, bias, code, place, isFirst, cs, rest => do
    let (steps, rest) ← number bias 36 1 0 rest
    let size := cs.length + 1
    let place := place + steps
    let code := code + place / size
    if 0x110000 ≤ code then
      .error ("Invalid character U+" ++ String.ofList (Nat.toDigits 16 code))
    else
      let place := place % size
      let cs := cs.take place ++ Char.ofNat code :: cs.drop place
      inserted n (adapted steps size isFirst) code (place + 1) false cs rest

/-- The two parts of a spelling, and whether there are two: what comes before the last hyphen, and what
follows it. -/
def parts (cs : List Char) : List Char × List Char :=
  let last := (cs.reverse.takeWhile (· != '-')).reverse
  (cs.take (cs.length - last.length - 1), last)

/-- The text of two parts; or why there is none. -/
def decode (parts : List Char × List Char) : Except String (List Char) :=
  inserted parts.2.length 72 0x80 0 true parts.1 parts.2

end Stepwise.Text.Punycode
