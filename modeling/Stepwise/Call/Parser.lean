import Stepwise.Call.Basic
import Stepwise.Text.Lines
import Stepwise.Value.Display

/-!
The argument list of a call. In tagged notation a marker stands before each argument, which may
then hold commas and quotes; in bare notation arguments are separated by commas outside quotes. An
argument is trimmed, loses a trailing comma and one layer of quotes, and is a reference when the
rest names an earlier output by its index.
-/

namespace Stepwise.Call

/-- The characters that quote an argument. -/
def isQuote (c : Char) : Bool := c == '"' || c == '\'' || c == '\x60'

/-- Where a scan for top-level commas stands. -/
inductive Mode
  | outside
  | within (quote : Char)
  | escaped (quote : Char)
  deriving DecidableEq, Repr

/-- The mode after one more character. A backslash inside quotes protects the next character. -/
def Mode.next : Mode → Char → Mode
  | outside, c => if isQuote c then within c else outside
  | within q, c => if c = '\\' then escaped q else if c = q then outside else within q
  | escaped q, _ => within q

/-- The pieces between commas outside quotes, when the scan starts in a mode. -/
def cut : Mode → List Char → List (List Char)
  | _, [] => [[]]
  | m, c :: rest =>
    if m = .outside ∧ c = ',' then [] :: cut .outside rest
    else Text.consHead c (cut (m.next c) rest)

/-- The pieces of an argument list in bare notation. -/
def splitBare (cs : List Char) : List (List Char) := cut .outside cs

/-- A text without one layer of matching quotes. -/
def unquote (cs : List Char) : List Char :=
  match cs with
  | q :: c :: rest =>
    if isQuote q && (c :: rest).getLast? == some q then (c :: rest).dropLast else cs
  | _ => cs

/-- A trimmed text without a trailing comma. -/
def dropComma (cs : List Char) : List Char :=
  if cs.getLast? = some ',' then Text.trimEnd cs.dropLast else cs

/-- The text of an argument within its piece. -/
def clean (piece : List Char) : List Char := unquote (dropComma (Text.trim piece))

/-- The digits of a reference; a final line break is allowed after the bracket. -/
def referenceDigits? (cs : List Char) : Option (List Char) :=
  let opening := outputsName.toList ++ ['[']
  if opening.isPrefixOf cs then
    let digits := (cs.drop opening.length).takeWhile Text.isDecimal
    let rest := (cs.drop opening.length).dropWhile Text.isDecimal
    if !digits.isEmpty && (rest == [']'] || rest == [']', '\n']) then some digits else none
  else none

/-- The argument that a cleaned text denotes. -/
def toArgument (cs : List Char) : Except Overlong Argument :=
  match referenceDigits? cs with
  | some digits => (Numeral.read digits).map .reference
  | none => .ok (.literal (String.ofList cs))

/-- Whether an argument list is in tagged notation. -/
def isTagged (cs : List Char) : Bool := Text.occurs marker.toList cs

/-- The pieces between markers; a blank lead-in is no argument. -/
def splitTagged (cs : List Char) : List (List Char) :=
  match Text.splitOn marker.toList cs with
  | [] => []
  | p :: ps => if p.all Text.isBlank then ps else p :: ps

/-- The pieces of an argument list, one for each argument. -/
def pieces (cs : List Char) : List (List Char) :=
  if cs.all Text.isBlank then [] else if isTagged cs then splitTagged cs else splitBare cs

/-- The arguments of an argument list, up to the first overlong index. -/
def arguments (cs : List Char) : Except Overlong (List Argument) :=
  (pieces cs).mapM fun p => toArgument (clean p)

/-- The arguments in the text between the parentheses of a call. -/
def splitArguments (s : String) : Except Overlong (List Argument) := arguments s.toList

end Stepwise.Call

/-!
Reading a call from the content of a step. The callee ends at the first opening parenthesis and the
arguments at the last closing one; what follows that is ignored. The last dot of the callee ends
the name space, and a call without one belongs to the given root.
-/

namespace Stepwise.Call

/-- The callee without a leading `await`. -/
def dropAwait (callee : List Char) : List Char :=
  if "await ".toList.isPrefixOf callee then Text.trim (callee.drop 6) else callee

/-- The name space and the name in a callee. -/
def splitCallee (callee : List Char) : List Char × List Char :=
  match Text.cutLast '.' callee with
  | some (space, name) => (Text.trim space, Text.trim name)
  | none => ([], Text.trim callee)

/-- The call that a text spells. -/
def read (root : String) (cs : List Char) : Except Refusal Call :=
  match Text.cutFirst '(' (Text.trim cs) with
  | none => .error .noOpening
  | some (before, after) =>
    match Text.cutLast ')' after with
    | none => .error .noClosing
    | some (inside, _) =>
      let callee := splitCallee (dropAwait (Text.trim before))
      if callee.2.isEmpty then .error .noName
      else
        match arguments inside with
        | .error o => .error (.overlong o)
        | .ok args =>
          .ok ⟨if callee.1.isEmpty then root else String.ofList callee.1, String.ofList callee.2, args⟩

/-- The call that a string spells; calls without a name space belong to `root`. -/
def parse (root s : String) : Except Refusal Call := read root s.toList

/-- The call that a value spells; only texts do. -/
def parseValue (root : String) : Value → Except Refusal Call
  | .text s => parse root s
  | _ => .error .notText

end Stepwise.Call
