import Stepwise.Shell.Records.Datum

/-!
The signs of a script that works on records.
-/

namespace Stepwise.Shell.Records

/-- A sign. Names of functions that belong to the language are told apart, and names right before an
opening parenthesis. -/
inductive Token
  | number (x : Double)
  | text (s : String)
  | pattern (cs : List Char)
  | name (s : String)
  | called (s : String)
  | function (s : String)
  | keyword (s : String)
  | sign (s : String)
  | line
  | finish
  deriving DecidableEq, Inhabited

/-- A sign with how it is spelled and the line it stands on. -/
structure Spelled where
  token : Token
  spelling : String
  line : Nat
  deriving Inhabited

/-- What is wrong with a script, on a line. -/
structure Flaw where
  line : Nat
  message : String
  numbered : Bool
  deriving Inhabited

namespace Token

def keywords : List String :=
  ["BEGIN", "END", "function", "func", "if", "else", "while", "do", "for", "in", "break", "continue", "next",
    "nextfile", "exit", "return", "delete", "getline", "print", "printf"]

def functions : List String :=
  ["length", "substr", "index", "split", "sub", "gsub", "match", "sprintf", "sin", "cos", "atan2", "exp",
    "log", "sqrt", "int", "rand", "srand", "tolower", "toupper", "system", "close", "fflush", "systime",
    "strftime", "mktime"]

def signs : List String :=
  ["&&", "||", "==", "!=", "<=", ">=", "++", "--", "+=", "-=", "*=", "/=", "%=", "^=", "!~",
    ">>", "\x7b", "\x7d", "(", ")", "[", "]", ";", ",", "+", "-", "*", "/", "%", "^", "!", ">", "<", "|", "?", ":",
    "~", "$", "="]

/-- Whether a slash after a sign divides; otherwise it begins a pattern. -/
def divides : Token → Bool
  | number _ => true
  | text _ => true
  | name _ => true
  | function _ => true
  | sign s => s = ")" || s = "]" || s = "$" || s = "++" || s = "--"
  | _ => false

/-- A text up to its closing quote, with its escapes resolved, and what follows it. -/
def string? : Nat → List Char → List Char → Option (List Char × List Char)
  | 0, _, _ => none
  | _, _, [] => none
  | _, _, '\n' :: _ => none
  | _, acc, '"' :: rest => some (acc.reverse, rest)
  | n + 1, acc, '\\' :: '\n' :: rest => string? n acc rest
  | n + 1, acc, '\\' :: c :: rest =>
    if c = '"' then string? n (c :: acc) rest
    else if c = 'e' then string? n ('e' :: '\\' :: acc) rest
    else if c = 'x' then
      let ds := (rest.take 2).takeWhile fun c => decide (digitValue c < 16)
      if ds.isEmpty then string? n ('x' :: '\\' :: acc) rest
      else string? n (Char.ofNat (ds.foldl (fun n c => n * 16 + digitValue c) 0) :: acc) (rest.drop ds.length)
    else
      match escape? (c :: rest) with
      | some (d, after) => string? n (d :: acc) after
      | none => string? n (c :: '\\' :: acc) rest
  | n + 1, acc, c :: rest => string? n (c :: acc) rest

/-- A text from outside with its escapes resolved. -/
def unescapedValue (s : String) : String :=
  let cs := s.toList.flatMap fun c => if c = '"' then ['\\', '"'] else if c = '\n' then "\\n".toList else [c]
  ((string? (2 * cs.length + 2) [] (cs ++ ['"'])).map fun r => String.ofList r.1).getD s

/-- A pattern up to its closing slash, and what follows it. Between brackets a slash is like any other
character. -/
def pattern? : Nat → Bool → List Char → List Char → Option (List Char × List Char)
  | 0, _, _, _ => none
  | _, _, _, [] => none
  | _, _, _, '\n' :: _ => none
  | n + 1, within, acc, '\\' :: c :: rest =>
    pattern? n within (if c = '/' then '/' :: acc else c :: '\\' :: acc) rest
  | n + 1, within, acc, c :: rest =>
    if c = '/' ∧ !within then some (acc.reverse, rest)
    else if c = '[' ∧ !within then
      match rest with
      | '^' :: ']' :: more => pattern? n true (']' :: '^' :: c :: acc) more
      | ']' :: more => pattern? n true (']' :: c :: acc) more
      | _ => pattern? n true (c :: acc) rest
    else pattern? n (within && c != ']') (c :: acc) rest

/-- The signs of a text, those that were read standing in reverse order. -/
def all : Nat → Nat → List Spelled → List Char → Except Flaw (List Spelled)
  | 0, _, acc, _ => .ok acc.reverse
  | _, l, acc, [] => .ok ((⟨finish, "end of file", l⟩ :: acc).reverse)
  | n + 1, l, acc, '\\' :: '\n' :: rest => all n (l + 1) acc rest
  | n + 1, l, acc, '\n' :: rest => all n (l + 1) (⟨line, "end of line", l⟩ :: acc) rest
  | n + 1, l, acc, '#' :: rest => all n l acc (rest.dropWhile (· != '\n'))
  | n + 1, l, acc, '"' :: rest =>
    match string? (rest.length + 1) [] rest with
    | some (cs, after) =>
      let spelling := String.ofList ('"' :: rest.take (rest.length - after.length))
      all n (l + (spelling.toList.count '\n')) (⟨text (String.ofList cs), spelling, l⟩ :: acc) after
    | none => .error ⟨l, "runaway string constant \"" ++ String.ofList (rest.takeWhile (· != '\n') |>.take 10) ++
        " ...", true⟩
  | n + 1, l, acc, c :: rest =>
    if c = ' ' ∨ c = '\t' ∨ c = '\r' ∨ c = '\x0b' ∨ c = '\x0c' then all n l acc rest
    else if c.isAlpha ∨ c = '_' then
      let word := (c :: rest).takeWhile fun c => c.isAlphanum || c == '_'
      let s := String.ofList word
      let after := (c :: rest).drop word.length
      let token := if keywords.contains s then keyword s else if functions.contains s then function s
        else if after.head? = some '(' then called s else name s
      all n l (⟨token, s, l⟩ :: acc) after
    else if c.isDigit ∨ (c = '.' ∧ rest.head?.any Char.isDigit) then
      match readDecimal (c :: rest) with
      | some (size, after) =>
        let (x, outside) := (⟨size, false, after⟩ : LeadingReal).toDouble
        let spelling := String.ofList ((c :: rest).take (rest.length + 1 - after.length))
        if outside then .error ⟨l, spelling ++ " : decimal overflow", true⟩
        else all n l (⟨number x, spelling, l⟩ :: acc) after
      | none => .error ⟨l, "syntax error", true⟩
    else if c = '/' ∧ !(acc.head?.any fun s => s.token.divides) then
      match pattern? (rest.length + 1) false [] rest with
      | some (cs, after) =>
        all n l (⟨pattern cs, String.ofList ('/' :: cs ++ ['/']), l⟩ :: acc) after
      | none => .error ⟨l, "runaway regular expression /" ++
          String.ofList (rest.takeWhile (· != '\n') |>.take 10) ++ " ...", true⟩
    else
      match signs.find? fun s => s.toList.isPrefixOf (c :: rest) with
      | some s => all n l (⟨sign s, s, l⟩ :: acc) ((c :: rest).drop s.length)
      | none =>
        let spelling := if c.toNat < 128 then "'" ++ String.singleton c ++ "'"
          else "0x" ++ String.ofList (Nat.toDigits 16 c.toNat)
        .error ⟨l, "unexpected character " ++ spelling, false⟩

/-- The signs of a script, of which the last line is always ended. -/
def ofScript (cs : List Char) : Except Flaw (List Spelled) :=
  let cs := if cs.getLast?.all (· == '\n') then cs else cs ++ ['\n']
  all (cs.length + 1) 1 [] cs

end Token

end Stepwise.Shell.Records
