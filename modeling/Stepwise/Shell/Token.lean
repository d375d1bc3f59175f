import Stepwise.Shell.Script

/-!
The tokens of a script, the complaints about a script that cannot be read, and the names that the
shell accepts.
-/

namespace Stepwise.Shell

/-- Why a script cannot be read. -/
inductive Misreading
  | unterminatedQuote
  | unterminatedCommand
  | missing (closing : String)
  | badVariable
  | badFunctionName
  | badDescriptor
  | unexpected (found : String) (wanted : Option String)
  deriving DecidableEq, Repr

/-- Why a script cannot be read, in words. -/
def Misreading.message (m : Misreading) : String :=
  "Syntax error: " ++ match m with
    | unterminatedQuote => "Unterminated quoted string"
    | unterminatedCommand => "EOF in backquote substitution"
    | missing closing => "Missing '" ++ closing ++ "'"
    | badVariable => "Bad for loop variable"
    | badFunctionName => "Bad function name"
    | badDescriptor => "Bad fd number"
    | unexpected found wanted =>
      found ++ " unexpected" ++ (wanted.elim "" fun w => " (expecting \"" ++ w ++ "\")")

/-- A token. A word keeps its text if nothing in it is quoted or expanded. -/
inductive Token
  | word (w : Word) (bare : Option String)
  | operator (s : String)
  | redirect (descriptor : Option Nat) (s : String)
  | newline
  | done

/-- The characters that names begin with. -/
def isNameStart (c : Char) : Bool := c.isAlpha || c == '_'

/-- The characters of names. -/
def isNameChar (c : Char) : Bool := c.isAlphanum || c == '_'

/-- Whether a text can be a name. -/
def isName (s : String) : Bool := (s.toList.head?.any isNameStart) && s.toList.all isNameChar

/-- The parameters whose name is a single sign. -/
def isSign (c : Char) : Bool := "?$#@*!-".toList.contains c

/-- Text put behind pieces that are in reverse order; text of the same kind is joined. -/
def pushText (quoted : Bool) (cs : List Char) : List Piece → List Piece
  | .text q s :: rest =>
    if q = quoted then .text q (s ++ String.ofList cs) :: rest
    else .text quoted (String.ofList cs) :: .text q s :: rest
  | ps => .text quoted (String.ofList cs) :: ps

/-- The text of a word in which nothing is quoted or expanded. -/
def Word.bare? : Word → Option String
  | [.text false s] => some s
  | _ => none

/-- The name that a word assigns to, and the word that gives the value. -/
def Word.assignment? : Word → Option (String × Word)
  | .text false s :: rest =>
    let name := s.toList.takeWhile isNameChar
    match s.toList.drop name.length with
    | '=' :: value =>
      if isName (String.ofList name) then
        some (String.ofList name,
          if value.isEmpty then rest else .text false (String.ofList value) :: rest)
      else none
    | _ => none
  | _ => none

namespace Token

/-- The words that have a meaning where a command begins. -/
def keywords : List String :=
  ["!", "case", "do", "done", "elif", "else", "esac", "fi", "for", "if", "in", "then", "until",
    "while", "\x7b", "\x7d"]

/-- The words that only end a list of commands. -/
def closers : List String := ["do", "done", "elif", "else", "esac", "fi", "then", "\x7d"]

/-- Whether a token is a word that stands as it is. -/
def isBare (t : Token) (s : String) : Bool :=
  match t with
  | word _ (some b) => b == s
  | _ => false

def isOperator (t : Token) (s : String) : Bool :=
  match t with
  | operator o => o == s
  | _ => false

def isNewline : Token → Bool
  | newline => true
  | _ => false

def isDone : Token → Bool
  | done => true
  | _ => false

/-- Whether a list of commands ends before a token. -/
def isEnd : Token → Bool
  | done => true
  | operator s => s == ")" || s == ";;"
  | word _ (some s) => closers.contains s
  | _ => false

/-- A token as complaints name it; `commanding` tells that keywords count. -/
def describe (commanding : Bool) : Token → String
  | word _ (some s) => if commanding && keywords.contains s then "\"" ++ s ++ "\"" else "word"
  | word _ none => "word"
  | operator s => "\"" ++ s ++ "\""
  | redirect _ _ => "redirection"
  | newline => "newline"
  | done => "end of file"

end Token

end Stepwise.Shell
