/-!
Commands of the shell. A word is a list of pieces: text, and what is to be expanded when the command
is carried out. The shell knows only bytes, so each character of its texts stands for one byte.
-/

namespace Stepwise.Shell

/-- How a file is joined to a descriptor. -/
inductive Joint
  | read
  | readWrite
  | write
  | clobber
  | append
  | duplicate
  deriving DecidableEq, Repr

/-- What is done about a parameter that has no value. -/
inductive Remedy
  | substitute
  | alternative
  | assign
  | complain
  deriving DecidableEq, Repr

mutual

/-- A part of a word. What is quoted is neither split nor matched against files. -/
inductive Piece
  | text (quoted : Bool) (s : String)
  | parameter (quoted : Bool) (name : String) (use : Use)
  | arithmetic (quoted : Bool) (body : List Piece)
  | command (quoted : Bool) (body : Command)

/-- How the value of a parameter is used: as it is, by its length, with a remedy if there is none (or
if it is empty too), or with a part cut off that a pattern covers. -/
inductive Use
  | value
  | length
  | unusable
  | remedied (emptyToo : Bool) (remedy : Remedy) (word : List Piece)
  | trimmed (atEnd most : Bool) (pattern : List Piece)

/-- A descriptor that is joined to something else while a command runs. A text that follows the
command is known by its number. -/
inductive Redirection
  | file (descriptor : Nat) (joint : Joint) (target : List Piece)
  | document (descriptor : Nat) (number : Nat)

/-- A command. Most know the line they stand on. -/
inductive Command
  | nothing
  | simple (line : Nat) (assignments : List (String × List Piece)) (words : List (List Piece))
      (redirections : List Redirection)
  | redirected (line : Nat) (body : Command) (redirections : List Redirection)
  | subshell (line : Nat) (body : Command) (redirections : List Redirection)
  | background (body : Command)
  | pipe (stages : List Command)
  | negated (c : Command)
  | both (first second : Command)
  | either (first second : Command)
  | sequence (first second : Command)
  | choice (condition yes no : Command)
  | loop (wanted : Bool) (condition body : Command)
  | each (line : Nat) (name : String) (words : List (List Piece)) (body : Command)
  | branch (line : Nat) (subject : List Piece) (cases : List (List (List Piece) × Command))
  | define (line : Nat) (name : String) (body : Command)

end

abbrev Word := List Piece

instance : Inhabited Command := ⟨.nothing⟩

/-- Whether there is nothing to be carried out. -/
def Command.isNothing : Command → Bool
  | nothing => true
  | _ => false

/-- All parameters, each one a word of its own. -/
def allParameters : Word := [.parameter true "@" .value]

end Stepwise.Shell
