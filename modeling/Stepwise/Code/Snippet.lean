import Stepwise.Call.Basic
import Stepwise.Fault
import Stepwise.Json.Reader
import Stepwise.Number.Numeral
import Stepwise.Text.Blank
import Stepwise.Text.Lines

/-!
The small blocks of code that are understood: an expression that is returned or only evaluated, and
the raising of an exception. Expressions are constants, outputs, and capabilities and their calls.
-/

namespace Stepwise.Code

/-- An expression. -/
inductive Expr
  | constant (v : Value)
  | output (index : Int)
  | outputCount
  | impossibleQuotient
  | capability (name : String)
  | call (name : String) (args : List Argument)
  deriving Repr

/-- What a block raises. -/
inductive Raised
  | exit (text : String)
  | interrupt
  | error (kind : FaultKind) (text : String)
  deriving Repr

/-- A block of code. -/
inductive Snippet
  | nothing
  | evaluate (awaited : Bool) (e : Expr)
  | answer (awaited : Bool) (e : Expr)
  | raises (r : Raised)
  deriving Repr

namespace Snippet

/-- The text after a word and blanks, if a text begins so. -/
def afterWord? (word : String) (cs : List Char) : Option (List Char) :=
  let rest := cs.drop word.toList.length
  if word.toList.isPrefixOf cs && (rest.head?.map Text.isBlank).getD false then
    some (Text.trimStart rest)
  else none

/-- The text between an opening and a closing text, if a text is all of these. -/
def between? (opening closing : String) (cs : List Char) : Option (List Char) :=
  let o := opening.toList
  let c := closing.toList
  if o.isPrefixOf cs && c.reverse.isPrefixOf (cs.drop o.length).reverse then
    some ((cs.drop o.length).take (cs.length - o.length - c.length))
  else none

/-- What an escape in a text constant comes to. -/
inductive Escape
  | char (c : Char) (taken : Nat)
  | literal
  | nothing
  | wrong

/-- The number that octal digits denote. -/
def octal (ds : List Char) : Nat := ds.foldl (fun n d => 8 * n + (d.toNat - 0x30)) 0

/-- Whether a character is an octal digit. -/
def isOctal (c : Char) : Bool := '0' ≤ c && c ≤ '7'

/-- The escape that a character after a backslash begins, and how many more characters it takes. An
escaped line end is nothing, and an unknown escape stands for itself. -/
def escape (c : Char) (rest : List Char) : Escape :=
  let hex (n : Nat) : Escape :=
    match (rest.take n).mapM Json.hexValue? with
    | some ds => if ds.length = n then .char (Char.ofNat (ds.foldl (fun a d => 16 * a + d) 0)) n else .wrong
    | none => .wrong
  match c with
  | 'n' => .char '\n' 0
  | 'r' => .char '\r' 0
  | 't' => .char '\t' 0
  | '\\' => .char '\\' 0
  | '\'' => .char '\'' 0
  | '"' => .char '"' 0
  | 'a' => .char (Char.ofNat 7) 0
  | 'b' => .char (Char.ofNat 8) 0
  | 'f' => .char (Char.ofNat 12) 0
  | 'v' => .char (Char.ofNat 11) 0
  | 'x' => hex 2
  | 'u' => hex 4
  | 'U' => hex 8
  | '\n' => .nothing
  | c =>
    if isOctal c then
      let more := (rest.take 2).takeWhile isOctal
      .char (Char.ofNat (octal (c :: more))) more.length
    else .literal

/-- How a text constant is written: the quotes that close it, whether it may go over several lines,
and whether backslashes stand for themselves. -/
structure Quoting where
  closing : List Char
  long : Bool
  raw : Bool

/-- The characters of a text constant up to its closing quotes, and what follows; `skip` characters
are already accounted for. -/
def constantBody (q : Quoting) : Nat → List Char → Option (List Char × List Char)
  | _, [] => none
  | skip + 1, _ :: rest => constantBody q skip rest
  | 0, c :: rest =>
    if q.closing.isPrefixOf (c :: rest) then some ([], rest.drop (q.closing.length - 1))
    else if (c = '\n' ∨ c = '\r') ∧ !q.long then none
    else if c = '\\' then
      match rest with
      | [] => none
      | d :: tail =>
        if q.raw then (constantBody q 1 rest).map fun p => ('\\' :: d :: p.1, p.2)
        else
          match escape d tail with
          | .char e n => (constantBody q (n + 1) rest).map fun p => (e :: p.1, p.2)
          | .nothing => constantBody q 1 rest
          | .literal => (constantBody q 0 rest).map fun p => ('\\' :: p.1, p.2)
          | .wrong => none
    else (constantBody q 0 rest).map fun p => (c :: p.1, p.2)

/-- How the text constant at the beginning of a text is written, and its text after the opening. -/
def opening? (raw : Bool) (cs : List Char) : Option (Quoting × List Char) :=
  ['"', '\''].findSome? fun quote =>
    let long := [quote, quote, quote]
    if long.isPrefixOf cs then some (⟨long, true, raw⟩, cs.drop 3)
    else if cs.head? = some quote then some (⟨[quote], false, raw⟩, cs.drop 1)
    else none

/-- One text constant and what follows it. -/
def piece? (cs : List Char) : Option (List Char × List Char) :=
  let opened := match cs with
    | c :: rest =>
      if c = 'r' ∨ c = 'R' then opening? true rest
      else if c = 'u' ∨ c = 'U' then opening? false rest
      else opening? false cs
    | [] => none
  opened.bind fun (q, body) => constantBody q 0 body

/-- Text constants one after the other, at most `n`, which are one. -/
def pieces? : Nat → List Char → Option (List Char × List Char)
  | 0, _ => none
  | n + 1, cs =>
    match piece? cs with
    | none => none
    | some (s, rest) =>
      match pieces? n (Text.trimStart rest) with
      | some (t, rest) => some (s ++ t, rest)
      | none => some (s, rest)

/-- A text constant and what follows it. -/
def constant? (cs : List Char) : Option (String × List Char) :=
  (pieces? (cs.length + 1) cs).map fun p => (String.ofList p.1, p.2)

/-- A whole text that is one text constant. -/
def wholeConstant? (cs : List Char) : Option String :=
  match constant? cs with
  | some (s, rest) => if (Text.trimStart rest).isEmpty then some s else none
  | none => none

/-- A whole text that is an integer. -/
def integer? (cs : List Char) : Option Int :=
  let negative := cs.head? == some '-'
  let digits := if negative then cs.drop 1 else cs
  if digits.isEmpty || !digits.all Char.isDigit then none
  else some (if negative then -(Text.numeral digits : Int) else Text.numeral digits)

/-- The index of an output. -/
def outputIndex? (cs : List Char) : Option Int :=
  (between? (Call.outputsName ++ "[") "]" cs).bind fun inside => integer? (Text.trim inside)

/-- The arguments of a call, at most `n`. -/
def arguments? : Nat → List Char → Option (List Argument)
  | 0, _ => none
  | n + 1, cs =>
    let cs := Text.trimStart cs
    let more (a : Argument) (rest : List Char) : Option (List Argument) :=
      match Text.trimStart rest with
      | [] => some [a]
      | ',' :: tail => if (Text.trimStart tail).isEmpty then some [a] else (arguments? n tail).map (a :: ·)
      | _ => none
    match constant? cs with
    | some (s, rest) => more (.literal s) rest
    | none =>
      match Text.cutFirst ']' cs with
      | some (before, rest) =>
        match outputIndex? (before ++ [']']) with
        | some i => if 0 ≤ i then more (.reference i.toNat) rest else more (.literal "") rest
        | none => none
      | none => none

/-- Whether a character may stand in a name. -/
def isNameChar (c : Char) : Bool := c.isAlphanum || c == '_' || 0x80 ≤ c.toNat

/-- A capability or its call, after the root and the dot. -/
def member? (cs : List Char) : Option Expr :=
  let name := String.ofList (cs.takeWhile isNameChar)
  let rest := Text.trimStart (cs.dropWhile isNameChar)
  if name.isEmpty then none
  else
    match rest with
    | [] => some (.capability name)
    | _ =>
      (between? "(" ")" rest).bind fun inside =>
        if (Text.trim inside).isEmpty then some (.call name [])
        else (arguments? (inside.length + 1) inside).map (.call name)

/-- The words that stand for values. -/
def words : List (String × Value) := [("None", .null), ("True", .bool true), ("False", .bool false)]

/-- The expression that a trimmed text spells. -/
def expr? (root : String) (cs : List Char) : Option Expr :=
  let word := (words.find? (·.1.toList == cs)).map (·.2)
  if cs == ("len(" ++ Call.outputsName ++ ")").toList then some .outputCount
  else if cs == "1 / 0".toList || cs == "1/0".toList then some .impossibleQuotient
  else
    match word, integer? cs, wholeConstant? cs, outputIndex? cs with
    | some v, _, _, _ => some (.constant v)
    | none, some i, _, _ => some (.constant (.int i))
    | none, none, some s, _ => some (.constant (.text s))
    | none, none, none, some i => some (.output i)
    | none, none, none, none =>
      if (root ++ ".").toList.isPrefixOf cs then member? (cs.drop (root.length + 1)) else none

/-- The text that an exception is given. -/
def raisedText? (cs : List Char) : Option String :=
  let inside := Text.trim cs
  if inside.isEmpty then some ""
  else
    ((wholeConstant? inside).or ((integer? inside).map toString)).or
      ((words.find? (·.1.toList == inside)).map (·.1))

/-- The exceptions that take a text, by name. -/
def errorKinds : List (String × FaultKind) :=
  [("ValueError", .value), ("RuntimeError", .runtime), ("KeyError", .key), ("TypeError", .type),
    ("OSError", .system)]

/-- What a trimmed text raises. -/
def raised? (cs : List Char) : Option Raised :=
  if cs == "KeyboardInterrupt".toList || cs == "KeyboardInterrupt()".toList then some .interrupt
  else if cs == "SystemExit".toList then some (.exit "")
  else
    match between? "SystemExit(" ")" cs with
    | some inside => (raisedText? inside).map .exit
    | none =>
      errorKinds.findSome? fun k =>
        (between? (k.1 ++ "(") ")" cs).bind fun inside => (raisedText? inside).map (.error k.2)

/-- An expression that may have to be awaited. -/
def awaited? (root : String) (cs : List Char) : Option (Bool × Expr) :=
  match afterWord? "await" cs with
  | some rest => (expr? root rest).map fun e => (true, e)
  | none => (expr? root cs).map fun e => (false, e)

/-- The block that a trimmed text spells. -/
def read? (root : String) (cs : List Char) : Option Snippet :=
  if cs.isEmpty || cs == "pass".toList then some .nothing
  else if cs == "return".toList then some .nothing
  else
    match afterWord? "return" cs, afterWord? "raise" cs with
    | some rest, _ => (awaited? root rest).map fun p => .answer p.1 p.2
    | none, some rest => (raised? rest).map .raises
    | none, none => (awaited? root cs).map fun p => .evaluate p.1 p.2

end Snippet

end Stepwise.Code
