import Stepwise.Shell.Format
import Stepwise.Shell.Tools.Basic

/-!
`printf` as a program of its own. It knows more escapes and directives than the shell's, writes numbers of
64 bits, and says more about arguments that are wrong.
-/

namespace Stepwise.Shell.Tools

open Run

namespace Printing

/-- What an escape after a backslash means: a text, an end of all writing, or nothing that is known. -/
inductive Escaped
  | text (cs rest : List Char)
  | stop
  | flaw (message : String)

/-- The character with a number, in bytes; there is none for halves of a pair. -/
def character (name : List Char) (n : Nat) (rest : List Char) : Escaped :=
  if 0xD800 ≤ n ∧ n < 0xE000 then .flaw ("invalid universal character name \\" ++ String.ofList name)
  else if 0x10FFFF < n then .text ('\\' :: name.map fun c => if c = 'U' then c else c.toUpper) rest
  else .text ((Text.Utf8.encodeChar (Char.ofNat n)).map fun b => Char.ofNat b.toNat) rest

/-- An escape, the text after its backslash being given. Where `zero` is set, a leading zero does not count
among the digits of a number. -/
def escape (zero : Bool) (cs : List Char) : Escaped :=
  let hex := fun (least most : Nat) (name : Char) (rest : List Char) =>
    let ds := (rest.take most).takeWhile fun c => decide (digitValue c < 16)
    if ds.length < least then none
    else some (name :: ds, ds.foldl (fun n c => n * 16 + digitValue c) 0, rest.drop ds.length)
  let missing := Escaped.flaw "missing hexadecimal number in escape"
  match cs with
  | [] => .text ['\\'] []
  | 'c' :: _ => .stop
  | '"' :: rest => .text ['"'] rest
  | 'x' :: rest => ((hex 1 2 'x' rest).map fun r => Escaped.text [Char.ofNat r.2.1] r.2.2).getD missing
  | 'u' :: rest => ((hex 4 4 'u' rest).map fun r => character r.1 r.2.1 r.2.2).getD missing
  | 'U' :: rest => ((hex 8 8 'U' rest).map fun r => character r.1 r.2.1 r.2.2).getD missing
  | c :: rest =>
    let counted := if zero && c == '0' then rest else cs
    if '0' ≤ c ∧ c ≤ '7' then
      let r := octal 3 0 counted
      .text [Char.ofNat (r.1 % 256)] r.2
    else
      match letterEscape? c with
      | some d => .text [d] rest
      | none => .text ['\\', c] rest

/-- What was written so far, in reverse order, the arguments left, the complaints, and whether writing has
come to its end or was given up. -/
structure Progress where
  written : List Char
  args : List String
  complaints : List String
  failed : Bool
  stopped : Bool

namespace Progress

def put (p : Progress) (cs : List Char) : Progress := { p with written := cs.reverse ++ p.written }

/-- A complaint that does not stop the writing. -/
def fault (p : Progress) (s : String) : Progress :=
  { p with complaints := p.complaints ++ [s], failed := true }

/-- A complaint that ends the writing. -/
def give (p : Progress) (s : String) : Progress := { p.fault s with stopped := true }

/-- A text with its escapes. -/
def putEscaped : Nat → List Char → Progress → Progress
  | 0, _, p => p
  | _, [], p => p
  | n + 1, '\\' :: rest, p =>
    match escape true rest with
    | .text cs after => putEscaped n after (p.put cs)
    | .stop => { p with stopped := true }
    | .flaw s => p.give s
  | n + 1, c :: rest, p => putEscaped n rest (p.put [c])

/-- The code of a character that stands for a number, if an argument is one; nothing should follow it. -/
def code? (arg : String) : Option (Nat × List Char) :=
  match arg.toList with
  | q :: c :: rest =>
    if q = '\'' ∨ q = '"' then
      match Letters.ofBytes (c :: rest) with
      | l :: more => some (if Letters.isStray l then c.toNat else l.toNat, Letters.toBytes more)
      | [] => none
    else none
  | _ => none

/-- Complains about what follows a character. -/
def ignoring (p : Progress) (rest : List Char) : Progress :=
  if rest.isEmpty then p
  else { p with complaints := p.complaints ++ ["warning: " ++ String.ofList rest ++
    ": character(s) following character constant have been ignored"] }

/-- Complains about an argument of which a part is no number. -/
def judge (p : Progress) (arg : String) (rest : List Char) (outside : Bool) : Progress :=
  if outside then p.fault (named arg ++ ": Numerical result out of range")
  else if rest.isEmpty then p
  else if rest.length = arg.length then p.fault (named arg ++ ": expected a numeric value")
  else p.fault (named arg ++ ": value not completely converted")

/-- An argument as a signed integer. -/
def signed (p : Progress) (arg : String) : Int × Progress :=
  match code? arg with
  | some (n, rest) => (n, p.ignoring rest)
  | none =>
    let r := readInteger true arg.toList
    (clamped r.value, p.judge arg r.rest (!isInteger r.value))

/-- An argument as an integer without a sign, which wraps. -/
def unsigned (p : Progress) (arg : String) : Nat × Progress :=
  match code? arg with
  | some (n, rest) => (n, p.ignoring rest)
  | none =>
    let r := readInteger true arg.toList
    let top := Nat.pow 2 64
    if r.value.natAbs < top then ((r.value % (top : Int)).toNat, p.judge arg r.rest false)
    else (top - 1, p.judge arg r.rest true)

/-- A floating-point argument as a directive writes it. -/
def putReal (p : Progress) (d : Directive) (arg : String) : Progress :=
  let format := BinaryFormat.extended
  let finite := fun (p : Progress) (negative : Bool) (m : Nat) (e : Int) =>
    if d.conversion.toLower = 'a' then
      p.put (d.fillNumber true (d.sign negative ++ d.cased ['0', 'x'])
        (d.cased (Places.wideHexadecimal (d.has '#') d.places? m e)))
    else
      let (num, den) := Double.scale 2 m 1 e
      p.put (d.fraction negative num den)
  let rounded := fun (p : Progress) (negative : Bool) (num den : Nat) =>
    if num = 0 then finite p negative 0 0
    else
      match format.nearest? num den with
      | some (m, e) => finite p negative m e
      | none => p.put (d.beyond negative "inf")
  match code? arg with
  | some (n, rest) => rounded (p.ignoring rest) false n 1
  | none =>
    let r := readReal arg.toList
    match r.magnitude with
    | .nan => (p.judge arg r.rest false).put (d.beyond r.negative "nan")
    | .infinite => (p.judge arg r.rest false).put (d.beyond r.negative "inf")
    | .scaled digits _ _ =>
      match r.magnitude.fraction? 17000 with
      | none => (p.judge arg r.rest true).put (d.beyond r.negative "inf")
      | some (num, den) =>
        let outside := digits ≠ 0 && (num = 0 || (format.nearest? num den).isNone)
        rounded (p.judge arg r.rest outside) r.negative num den

/-- What a directive makes of an argument. -/
def apply (p : Progress) (d : Directive) (arg : String) : Progress :=
  let c := d.conversion
  if c = 's' then p.put (d.text arg)
  else if c = 'c' then p.put (d.fill [arg.toList.headD '\x00'])
  else if c = 'd' ∨ c = 'i' then
    let (i, p) := p.signed arg
    p.put (d.fillNumber d.places?.isNone (d.sign (decide (i < 0))) (d.integerDigits 10 i.natAbs))
  else if "ouxX".toList.contains c then
    let (n, p) := p.unsigned arg
    p.put (d.unsigned n)
  else p.putReal d arg

/-- The next argument, if there is one. -/
def next? (p : Progress) : Option String × Progress := (p.args.head?, { p with args := p.args.drop 1 })

end Progress

/-- A width or a precision: digits, or a star for an argument. -/
def measure (what : String) (cs : List Char) (p : Progress) : Option Int × List Char × Progress :=
  match cs with
  | '*' :: rest =>
    match p.next? with
    | (none, p) => (some 0, rest, p)
    | (some arg, p) =>
      let (i, p) := p.signed arg
      if -2147483648 ≤ i ∧ i ≤ 2147483647 then (some i, rest, p)
      else (some 0, rest, p.give ("invalid " ++ what ++ ": " ++ named arg))
  | _ =>
    let run := cs.takeWhile Char.isDigit
    ((String.ofList run).toNat?.map Int.ofNat, cs.drop run.length, p)

/-- The conversions that go with the flags and the precision of a directive. -/
def conversions (flags : List Char) (precise : Bool) : List Char :=
  "aAcdeEfFgGiosuxX".toList.filter fun c =>
    !((flags.contains 'I' || flags.contains '\'') && "aAceEosxX".toList.contains c) &&
    !(flags.contains '#' && "cdisu".toList.contains c) && !(flags.contains '0' && "cs".toList.contains c) &&
    !(precise && c == 'c')

/-- A directive, the text after its percent sign being given. -/
def directive (cs : List Char) (p : Progress) : List Char × Progress :=
  match cs with
  | '%' :: rest => (rest, p.put ['%'])
  | 'b' :: rest =>
    match p.next? with
    | (none, p) => (rest, p)
    | (some arg, p) => (rest, p.putEscaped (arg.length + 1) arg.toList)
  | 'q' :: rest =>
    match p.next? with
    | (none, p) => (rest, p)
    | (some arg, p) => (rest, p.put (Quoting.word arg).toList)
  | cs =>
    let flags := cs.takeWhile fun c => "I'-+ #0".toList.contains c
    let (width, rest, p) := measure "field width" (cs.drop flags.length) p
    let (precision, rest, p) := match rest with
      | '.' :: more =>
        let (n, rest, p) := measure "precision" more p
        (some n, rest, p)
      | _ => (none, rest, p)
    let rest := rest.dropWhile fun c => "lLhjtz".toList.contains c
    if p.stopped then ([], p)
    else
      let c := rest.headD '\x00'
      let spelling := '%' :: cs.take (cs.length - rest.length + 1)
      if (conversions flags precision.isSome).contains c then
        let (arg, p) := p.next?
        (rest.drop 1, p.apply ⟨flags, width, precision, c, String.ofList spelling⟩ (arg.getD ""))
      else ([], p.give (String.ofList spelling ++ ": invalid conversion specification"))

/-- A format that is used once. -/
def once : Nat → List Char → Progress → Progress
  | 0, _, p => p
  | _, [], p => p
  | n + 1, '%' :: rest, p =>
    let (rest, p) := directive rest p
    if p.stopped then p else once n rest p
  | n + 1, '\\' :: rest, p =>
    match escape false rest with
    | .text cs after => once n after (p.put cs)
    | .stop => { p with stopped := true }
    | .flaw s => p.give s
  | n + 1, c :: rest, p => once n rest (p.put [c])

/-- A format that is used again while there are more arguments. -/
def all (format : List Char) : Nat → Progress → Progress
  | 0, p => p
  | n + 1, p =>
    let q := once (format.length + 1) format p
    if q.stopped || q.args.isEmpty || q.args.length = p.args.length then q else all format n q

end Printing

def printf (args : List String) : Run Nat := do
  match if args.head? = some "--" then args.drop 1 else args with
  | [] => fault "printf" ("missing operand" ++ hint "printf") 1
  | format :: args =>
    let p := Printing.all format.toList (args.length + 1) ⟨[], args, [], false, false⟩
    write 1 (String.ofList p.written.reverse)
    for s in p.complaints do write 2 ("printf: " ++ s ++ "\n")
    match p.args with
    | extra :: _ =>
      if p.stopped then pure ()
      else write 2 ("printf: warning: ignoring excess arguments, starting with " ++ named extra ++ "\n")
    | [] => pure ()
    pure (if p.failed then 1 else 0)

end Stepwise.Shell.Tools
