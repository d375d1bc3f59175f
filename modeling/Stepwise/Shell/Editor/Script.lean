import Stepwise.Shell.Regex

/-!
Scripts that edit lines: steps, each with the lines that it is for and what it does to them.
-/

namespace Stepwise.Shell.Editor

/-- An expression that lines are matched with, whether case counts not in it, and whether lines in the
text have borders of their own. -/
structure Matcher where
  regex : Regex
  folding : Bool
  inLines : Bool

/-- A text as what a matcher looks at. -/
def Matcher.subject (m : Matcher) (cs : List Char) : Regex.Subject :=
  ⟨(Letters.ofBytes cs).toArray, m.folding, m.inLines, false⟩

/-- Where a piece of a script comes from: an expression that was given, or a file. -/
inductive Origin
  | expression (number : Nat)
  | file (name : String)
  deriving DecidableEq, Repr

/-- A place in a script: a number of characters of an expression, or a line of a file. -/
abbrev Spot := Origin × Nat

/-- A place in words. -/
def Spot.shown : Spot → String
  | (.expression n, k) => "-e expression #" ++ toString n ++ ", char " ++ toString k
  | (.file name, k) => "file " ++ name ++ " line " ++ toString k

/-- A line that a step is for: any, one with a number, the last one, every so many from one on, those that
match, and, where a range ends, some lines further or at the next multiple of a number. Without a
matcher the one used last counts. -/
inductive Address
  | all
  | line (n : Nat)
  | last
  | every (first step : Nat)
  | containing (m : Option Matcher)
  | further (n : Nat)
  | multiple (n : Nat)

/-- A part of what replaces a match: text, what a group matched, or a change of case. -/
inductive Replacement
  | text (cs : List Char)
  | group (n : Nat)
  | casing (c : Char)

/-- How matches are replaced: from which one on, whether all that follow are, and what is done then:
showing the line, carrying it out before or after that, and writing it to a file. -/
structure Substitution where
  matcher : Option Matcher
  replacement : List Replacement
  number : Nat
  global : Bool
  shows : Bool
  carries : Bool
  showsCarried : Bool
  file : Option String

namespace Substitution

/-- The greatest number of a group that is put in. -/
def greatestGroup (s : Substitution) : Nat :=
  s.replacement.foldl (fun n r => match r with
    | .group k => max n k
    | _ => n) 0

end Substitution

/-- When a step jumps: always, after a substitution, or without one. -/
inductive Jump
  | always
  | substituted
  | unchanged
  deriving DecidableEq, Repr

/-- What a step does; simple deeds are known by a letter. -/
inductive Verb
  | nothing
  | opening (closing : Nat)
  | substitute (s : Substitution)
  | translate (pairs : List (Char × Char))
  | quit (silent : Bool) (status : Nat)
  | insert (cs : List Char)
  | append (cs : List Char)
  | change (cs : List Char)
  | read (file : String)
  | readLine (file : String)
  | write (file : String)
  | writeLine (file : String)
  | jump (when_ : Jump) (label : String)
  | label (name : String)
  | list (width : Option Nat)
  | execute (command : List Char)
  | plain (c : Char)

/-- A step of a script: the lines from one to another, or those that the first address covers, or all;
or all but those. -/
structure Step where
  first : Option Address
  second : Option Address
  inverted : Bool
  verb : Verb

/-- The files that a step writes to. -/
def Verb.outputs : Verb → List String
  | substitute s => s.file.toList
  | write file => [file]
  | writeLine file => [file]
  | _ => []

/-- A script, whether lines are not shown unless a step shows them, and the place at its end. -/
structure Script where
  steps : Array Step
  quiet : Bool
  place : Spot

end Stepwise.Shell.Editor
