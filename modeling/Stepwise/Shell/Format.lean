import Stepwise.Number.Places
import Stepwise.Shell.Escape
import Stepwise.Shell.Machine
import Stepwise.Shell.Real

/-!
Writing arguments in a format. The format is used again as long as there are arguments left; where
there are too few, a text is empty and a number zero.
-/

namespace Stepwise.Shell

/-- A directive: its flags, its least width, its precision, and what it converts to. A width or a
precision may be an argument. -/
structure Directive where
  flags : List Char
  width : Option Int
  precision : Option (Option Int)
  conversion : Char
  spelling : String

/-- What a format has made so far: text in reverse order, the arguments left, whether any was used,
and the complaints. -/
structure Formatting where
  written : List Char
  args : List String
  used : Bool
  complaints : List String
  stopped : Bool
  failed : Bool

namespace Formatting

/-- Text put behind what was written. -/
def put (f : Formatting) (cs : List Char) : Formatting :=
  { f with written := cs.reverse ++ f.written }

/-- The next argument. -/
def next (f : Formatting) : String × Formatting :=
  (f.args.headD "", { f with args := f.args.drop 1, used := true })

/-- A complaint that does not stop the writing. -/
def complain (f : Formatting) (s : String) : Formatting := { f with complaints := f.complaints ++ [s] }

/-- A complaint that ends the writing. -/
def fail (f : Formatting) (s : String) : Formatting := { f.complain s with stopped := true, failed := true }

/-- A complaint about an argument of which a part is no number. -/
def judge (f : Formatting) (arg : String) (rest : List Char) (tooLarge : Bool) : Formatting :=
  if !rest.isEmpty then
    f.complain (arg ++
      if rest.length = arg.length then ": expected numeric value" else ": not completely converted")
  else if tooLarge then f.complain (arg ++ ": Numerical result out of range")
  else f

/-- The next argument as an integer; a quote stands before a character whose code is meant. -/
def nextInteger (f : Formatting) : Int × Formatting :=
  let (arg, f) := f.next
  match arg.toList with
  | '\'' :: rest => ((rest.headD '\x00').toNat, f)
  | '"' :: rest => ((rest.headD '\x00').toNat, f)
  | cs =>
    let r := readInteger true cs
    (r.value, f.judge arg r.rest false)

/-- The next argument as a signed integer. -/
def nextSigned (f : Formatting) : Int × Formatting :=
  let (i, g) := f.nextInteger
  (clamped i, if isInteger i then g else g.judge (f.args.headD "") [] true)

/-- The next argument as an integer without a sign, which wraps. -/
def nextUnsigned (f : Formatting) : Nat × Formatting :=
  let (i, g) := f.nextInteger
  let top : Nat := Nat.pow 2 64
  if i.natAbs < top then ((i % (top : Int)).toNat, g)
  else (top - 1, g.judge (f.args.headD "") [] true)

end Formatting

namespace Directive

def has (d : Directive) (flag : Char) : Bool := d.flags.contains flag

/-- Text filled up with blanks. -/
def fill (d : Directive) (cs : List Char) : List Char :=
  let w := d.width.getD 0
  let missing := List.replicate (w.natAbs - cs.length) ' '
  if d.has '-' || w < 0 then cs ++ missing else missing ++ cs

/-- A number with its sign or base in front, filled up with blanks or with zeros. -/
def fillNumber (d : Directive) (zeros : Bool) (front digits : List Char) : List Char :=
  let w := d.width.getD 0
  if zeros && d.has '0' && !d.has '-' && 0 ≤ w then
    front ++ List.replicate (w.natAbs - front.length - digits.length) '0' ++ digits
  else d.fill (front ++ digits)

/-- The sign of a number. -/
def sign (d : Directive) (negative : Bool) : List Char :=
  if negative then ['-'] else if d.has '+' then ['+'] else if d.has ' ' then [' '] else []

/-- The precision, if there is one. -/
def places? (d : Directive) : Option Nat :=
  match d.precision with
  | some (some i) => if 0 ≤ i then some i.toNat else none
  | some none => some 0
  | none => none

/-- The digits of an integer, as many as the precision asks for. -/
def integerDigits (d : Directive) (base n : Nat) : List Char :=
  let ds := if n = 0 ∧ d.places? = some 0 then [] else Nat.toDigits base n
  List.replicate (d.places?.getD 0 - ds.length) '0' ++ ds

/-- A text as a directive writes it. -/
def text (d : Directive) (s : String) : List Char :=
  d.fill ((d.places?.map fun p => s.toList.take p).getD s.toList)

/-- An integer as a directive writes it. -/
def unsigned (d : Directive) (n : Nat) : List Char :=
  let zeros := d.places?.isNone
  match d.conversion with
  | 'o' =>
    let ds := d.integerDigits 8 n
    d.fillNumber zeros [] (if d.has '#' && ds.head? != some '0' then '0' :: ds else ds)
  | 'x' => d.fillNumber zeros (if d.has '#' && n != 0 then ['0', 'x'] else []) (d.integerDigits 16 n)
  | 'X' =>
    d.fillNumber zeros (if d.has '#' && n != 0 then ['0', 'X'] else [])
      ((d.integerDigits 16 n).map Char.toUpper)
  | _ => d.fillNumber zeros [] (d.integerDigits 10 n)

/-- Digits and letters in the case that a directive asks for. -/
def cased (d : Directive) (cs : List Char) : List Char :=
  if d.conversion.isUpper then cs.map Char.toUpper else cs

/-- A fraction as a directive writes it: with a power, in the form that suits its size, or without one. -/
def fraction (d : Directive) (negative : Bool) (num den : Nat) : List Char :=
  let lower := d.conversion.toLower
  let p := d.places?.getD 6
  let digits :=
    if lower = 'e' then Places.scientific (d.has '#') p num den
    else if lower = 'g' then Places.general (d.has '#') p num den
    else Places.fixed (d.has '#') p num den
  d.fillNumber true (d.sign negative) (d.cased digits)

/-- What is no number, or too large for one, as a directive writes it. -/
def beyond (d : Directive) (negative : Bool) (word : String) : List Char :=
  d.fillNumber false (d.sign negative) (d.cased word.toList)

/-- A floating-point number as a directive writes it; `negative` is its sign. -/
def double (d : Directive) (negative : Bool) (x : Double) : List Char :=
  match x with
  | .nan => d.beyond negative "nan"
  | .infinite _ => d.beyond negative "inf"
  | .finite _ m e =>
    if d.conversion.toLower = 'a' then
      d.fillNumber true (d.sign negative ++ d.cased ['0', 'x'])
        (d.cased (Places.hexadecimal (d.has '#') d.places? m e))
    else
      let (num, den) := Double.scale 2 m 1 e
      d.fraction negative num den

/-- What a directive makes of the next argument. -/
def apply (d : Directive) (f : Formatting) : Formatting :=
  if d.conversion = 's' then
    let (s, f) := f.next
    f.put (d.text s)
  else if d.conversion = 'b' then
    let (s, f) := f.next
    let (s, stop) := unescaped s
    { f.put (d.text s) with stopped := stop }
  else if d.conversion = 'c' then
    let (s, f) := f.next
    f.put (d.fill [s.toList.headD '\x00'])
  else if d.conversion = 'd' ∨ d.conversion = 'i' then
    let (i, f) := f.nextSigned
    f.put (d.fillNumber d.places?.isNone (d.sign (decide (i < 0))) (d.integerDigits 10 i.natAbs))
  else if "ouxX".toList.contains d.conversion then
    let (n, f) := f.nextUnsigned
    f.put (d.unsigned n)
  else if "aAeEfFgG".toList.contains d.conversion then
    let (s, f) := f.next
    match s.toList with
    | '\'' :: rest => f.put (d.double false (.ofInt (rest.headD '\x00').toNat))
    | '"' :: rest => f.put (d.double false (.ofInt (rest.headD '\x00').toNat))
    | cs =>
      let r := readReal cs
      let (x, outside) := r.toDouble
      (f.judge s r.rest outside).put (d.double r.negative x)
  else f.fail (d.spelling ++ ": invalid directive")

end Directive

/-- A width or a precision: digits, or a star for an argument. -/
def measure (cs : List Char) (f : Formatting) : Option Int × List Char × Formatting :=
  match cs with
  | '*' :: rest =>
    let (i, f) := f.nextSigned
    (some i, rest, f)
  | _ =>
    let run := cs.takeWhile Char.isDigit
    ((String.ofList run).toNat?.map Int.ofNat, cs.drop run.length, f)

/-- A directive at the beginning, after the percent sign; none if the format ends within it. -/
def directive? (cs : List Char) (f : Formatting) : Option (Directive × List Char × Formatting) :=
  let flags := cs.takeWhile fun c => "#-+ 0".toList.contains c
  let (width, rest, f) := measure (cs.drop flags.length) f
  let (precision, rest, f) := match rest with
    | '.' :: more =>
      let (p, rest, f) := measure more f
      (some p, rest, f)
    | _ => (none, rest, f)
  match rest with
  | [] => none
  | c :: rest =>
    let spelling := String.ofList ('%' :: cs.take (cs.length - rest.length))
    some (⟨flags, width, precision, c, spelling⟩, rest, f)

/-- What a format makes of arguments, being used once. -/
def formatOnce : Nat → List Char → Formatting → Formatting
  | 0, _, f => f
  | _, [], f => f
  | n + 1, '%' :: '%' :: rest, f => formatOnce n rest (f.put ['%'])
  | n + 1, '%' :: rest, f =>
    match directive? rest f with
    | none => f.fail "missing format character"
    | some (d, rest, f) =>
      let f := d.apply f
      if f.stopped then f else formatOnce n rest f
  | n + 1, '\\' :: rest, f =>
    match escape? rest with
    | some (c, after) => formatOnce n after (f.put [c])
    | none => formatOnce n rest (f.put ['\\'])
  | n + 1, c :: rest, f => formatOnce n rest (f.put [c])

/-- What a format makes of arguments, being used again while there are more of them. -/
def formatAll (format : List Char) : Nat → Formatting → Formatting
  | 0, f => f
  | n + 1, f =>
    let g := formatOnce (format.length + 1) format { f with used := false }
    if g.stopped || g.args.isEmpty || !g.used then g else formatAll format n g

/-- Arguments in a format. -/
def formatted (format : String) (args : List String) : Formatting :=
  formatAll format.toList (args.length + 1) ⟨[], args, false, [], false, false⟩

end Stepwise.Shell
