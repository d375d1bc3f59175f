import Stepwise.Shell.Token

/-!
What is left of a script to read, and the steps of reading that know only characters: continued line
ends, blanks and comments, quotes, and the lines of documents that follow a command.
-/

namespace Stepwise.Shell

/-- A document that was announced: its number, the line that ends it, whether it is taken literally,
and whether tabs are dropped at the beginnings of its lines. -/
structure Announcement where
  number : Nat
  mark : String
  literal : Bool
  untabbed : Bool

/-- What is left to read, the number of line ends before it, and a token read ahead. Aliases that are
being read are noted with the length of the text behind them. A token is `open_` to aliases if it comes
right after the text of one that ends with a blank. The text is never longer than the bound. -/
structure Source where
  text : List Char
  bound : Nat
  line : Nat
  ahead : Option Token
  announced : List Announcement
  documents : List Word
  aliases : List (String × String)
  unfolding : List (String × Nat)
  open_ : Bool

/-- Reading from a source; a complaint comes with the number of line ends before it. -/
abbrev Reader := StateT Source (Except (Misreading × Nat))

namespace Reader

/-- The number of line ends in a text. -/
def lineEnds (cs : List Char) : Nat := cs.countP (· == '\n')

/-- A text without the continued line ends at its beginning, and their number. -/
def joined : List Char → Nat → List Char × Nat
  | '\\' :: '\n' :: rest, n => joined rest (n + 1)
  | cs, n => (cs, n)

/-- The next character, still to be read. -/
def look : Reader (Option Char) := do
  let s ← get
  let (cs, n) := joined s.text 0
  set { s with text := cs, line := s.line + n }
  return cs.head?

/-- Takes the next character, however it is quoted. -/
def takeRaw : Reader (Option Char) := do
  let s ← get
  match s.text with
  | [] => pure none
  | c :: rest =>
    set { s with text := rest, line := if c = '\n' then s.line + 1 else s.line }
    pure (some c)

/-- Takes the next character. -/
def take : Reader (Option Char) := do
  let _ ← look
  takeRaw

/-- Takes a character if it is the next one. -/
def accept (c : Char) : Reader Bool := do
  if (← look) = some c then
    let _ ← takeRaw
    pure true
  else pure false

/-- Takes characters as long as a condition holds. -/
def takeWhile (f : Char → Bool) : Reader (List Char) := do
  let s ← get
  let run := s.text.takeWhile f
  set { s with text := s.text.drop run.length, line := s.line + lineEnds run }
  pure run

/-- Complains. -/
def refuse {α : Type} (m : Misreading) : Reader α := do throw (m, (← get).line)

/-- Complains about a token. -/
def unexpected {α : Type} (t : Token) (wanted : Option String) (commanding : Bool) : Reader α :=
  refuse (.unexpected (t.describe commanding) wanted)

/-- Reads another text with the same documents, and goes on where it was. -/
def aside {α : Type} (cs : List Char) (line : Nat) (r : Reader α) : Reader α := do
  let before ← get
  set { before with text := cs, bound := cs.length, line, ahead := none, announced := [], unfolding := [] }
  let a ← r
  let after ← get
  set { before with documents := after.documents }
  pure a

/-- Text up to a quote. -/
def untilQuote : Reader (List Char) := do
  let cs ← takeWhile (· != '\'')
  match ← takeRaw with
  | some _ => pure cs
  | none => refuse .unterminatedQuote

/-- The text of a command up to a backquote, and what follows it. A backslash before a backslash, a
dollar sign or a backquote is dropped, as it is before a double quote if the command is quoted. -/
def backquoted (quoted : Bool) : List Char → List Char → Option (List Char × List Char)
  | _, [] => none
  | acc, '`' :: rest => some (acc.reverse, rest)
  | acc, '\\' :: '\n' :: rest => backquoted quoted acc rest
  | acc, '\\' :: c :: rest =>
    if c == '\\' || c == '`' || c == '$' || (quoted && c == '"') then
      backquoted quoted (c :: acc) rest
    else backquoted quoted (c :: '\\' :: acc) rest
  | acc, c :: rest => backquoted quoted (c :: acc) rest

/-- Whether a line goes on after its end, given whether backslashes count. -/
def continues (literal : Bool) (line : List Char) : Bool :=
  !literal && (line.reverse.takeWhile (· == '\\')).length % 2 == 1

/-- The lines of a document, in reverse order, and what follows the line that ends it. `atStart`
tells that the line before has ended. -/
def documentLines (a : Announcement) : Nat → Bool → List (List Char) → List Char →
    List (List Char) × List Char
  | 0, _, acc, cs => (acc, cs)
  | n + 1, atStart, acc, cs =>
    if cs.isEmpty then (acc, [])
    else
      let line := cs.takeWhile (· != '\n')
      let rest := cs.drop line.length
      let line := if a.untabbed && atStart then line.dropWhile (· == '\t') else line
      if atStart && line == a.mark.toList then (acc, rest.drop 1)
      else
        documentLines a n (!continues a.literal line)
          ((if rest.isEmpty then line else line ++ ['\n']) :: acc) (rest.drop 1)

/-- Blanks, comments and continued line ends skipped, with the number of line ends. -/
def skip : Bool → List Char → Nat → List Char × Nat
  | _, [], n => ([], n)
  | true, c :: rest, n => if c = '\n' then (c :: rest, n) else skip true rest n
  | false, '\\' :: '\n' :: rest, n => skip false rest (n + 1)
  | false, c :: rest, n =>
    if c = ' ' ∨ c = '\t' then skip false rest n
    else if c = '#' then skip true rest n
    else (c :: rest, n)

/-- Skips blanks, comments and continued line ends. -/
def skipBlanks : Reader Unit := do
  let s ← get
  let (cs, n) := skip false s.text 0
  set { s with text := cs, line := s.line + n }

end Reader

end Stepwise.Shell
