import Stepwise.Text.Blank
import Stepwise.Text.Lines

/-!
Variable files: one `NAME=value` a line, with comments, an optional `export`, and values that may be
quoted and then span lines. A line that fits no form is passed over. References to variables in
values are replaced by what is known of them so far. A name alone declares a variable without value.
-/

namespace Stepwise.Dotenv

/-- A blank that does not end a line. -/
def isInline (c : Char) : Bool := Text.isBlank c && c != '\n' && c != '\r'

/-- What is left after the current line. -/
def afterLine : List Char → List Char
  | [] => []
  | '\r' :: '\n' :: rest => rest
  | c :: rest => if c = '\n' ∨ c = '\r' then rest else afterLine rest

/-- The value up to the first quote that is not escaped, and what follows the quote. -/
def unescapedEnd (quote : Char) : List Char → Option (List Char × List Char)
  | [] => none
  | [c] => if c = quote then some ([], []) else none
  | c :: d :: rest =>
    if c = quote then some ([], d :: rest)
    else if c = '\\' ∧ (d = '\\' ∨ d = quote) then
      (unescapedEnd quote rest).map fun p => (c :: d :: p.1, p.2)
    else (unescapedEnd quote (d :: rest)).map fun p => (c :: p.1, p.2)

/-- The character of an escape inside double quotes. -/
def doubleEscape? (c : Char) : Option Char :=
  if c = '\\' ∨ c = '\'' ∨ c = '"' then some c
  else if c = 'a' then some (Char.ofNat 7)
  else if c = 'b' then some (Char.ofNat 8)
  else if c = 'f' then some (Char.ofNat 12)
  else if c = 'n' then some '\n'
  else if c = 'r' then some '\r'
  else if c = 't' then some '\t'
  else if c = 'v' then some (Char.ofNat 11)
  else none

/-- The character of an escape inside single quotes. -/
def singleEscape? (c : Char) : Option Char := if c = '\\' ∨ c = '\'' then some c else none

/-- A text with its escapes replaced. -/
def unescape (escape? : Char → Option Char) : List Char → List Char
  | [] => []
  | [c] => [c]
  | c :: d :: rest =>
    if c = '\\' then
      match escape? d with
      | some e => e :: unescape escape? rest
      | none => c :: unescape escape? (d :: rest)
    else c :: unescape escape? (d :: rest)

/-- An unquoted value: a hash after a blank starts a comment. -/
def dropComment : List Char → List Char
  | [] => []
  | c :: rest =>
    if Text.isBlank c && (rest.dropWhile Text.isBlank).head? == some '#' then []
    else c :: dropComment rest

/-- The value after the sign of equality and blanks, and what follows. Only after a blank does a
hash in first place start a comment. -/
def value (afterBlank : Bool) (cs : List Char) : Option (List Char × List Char) :=
  let isEnd (c : Char) : Bool := c == '\n' || c == '\r'
  let line := cs.takeWhile (!isEnd ·)
  let bare (v : List Char) := some (Text.trimEnd v, cs.dropWhile (!isEnd ·))
  match cs with
  | '\'' :: rest => (unescapedEnd '\'' rest).map fun p => (unescape singleEscape? p.1, p.2)
  | '"' :: rest => (unescapedEnd '"' rest).map fun p => (unescape doubleEscape? p.1, p.2)
  | '#' :: _ => bare (if afterBlank then [] else dropComment line)
  | _ => bare (dropComment line)

/-- A name, quoted or bare; a comment has none. -/
def name (cs : List Char) : Option (Option (List Char) × List Char) :=
  match cs with
  | '#' :: _ => some (none, cs)
  | '\'' :: rest =>
    match Text.cutFirst '\'' rest with
    | some (k, tail) => if k.isEmpty then none else some (some k, tail)
    | none => none
  | _ =>
    let isName (c : Char) : Bool := !(c == '=' || c == '#' || Text.isBlank c)
    if (cs.takeWhile isName).isEmpty then none
    else some (some (cs.takeWhile isName), cs.dropWhile isName)

/-- The text after the word `export` and blanks, if it begins so. -/
def dropExport (cs : List Char) : List Char :=
  let rest := cs.drop 6
  if "export".toList.isPrefixOf cs && (rest.head?.map isInline).getD false then rest.dropWhile isInline
  else cs

/-- What follows a comment and the end of the line, if nothing else is there. -/
def lineEnd? (cs : List Char) : Option (List Char) :=
  let rest := cs.dropWhile isInline
  match rest with
  | [] => some []
  | '#' :: _ => some (afterLine rest)
  | '\n' :: tail => some tail
  | '\r' :: '\n' :: tail => some tail
  | '\r' :: tail => some tail
  | _ => none

/-- A name with its value, and what follows the line. The second part of a failure is where the
line was left. -/
def binding (cs : List Char) : Except (List Char) (Option (String × Option String) × List Char) :=
  let start := dropExport cs
  match name start with
  | none => .error start
  | some (key, rest) =>
    let rest := rest.dropWhile isInline
    let given : Except (List Char) (Option String × List Char) :=
      match rest with
      | '=' :: tail =>
        let bare := tail.dropWhile isInline
        match value (bare.length != tail.length) bare with
        | some (v, after) => .ok (some (String.ofList v), after)
        | none => .error bare
      | _ => .ok (none, rest)
    match given with
    | .error tail => .error tail
    | .ok (v, tail) =>
      match lineEnd? tail with
      | some after => .ok (key.map fun k => (String.ofList k, v), after)
      | none => .error tail

/-- The bindings of a text, reading at most `n` lines. -/
def bindings : Nat → List Char → List (String × Option String)
  | 0, _ => []
  | n + 1, cs =>
    let cs := cs.dropWhile Text.isBlank
    if cs.isEmpty then []
    else
      match binding cs with
      | .ok (some b, rest) => b :: bindings n rest
      | .ok (none, rest) => bindings n rest
      | .error rest => bindings n (afterLine rest)

/-- The value of a variable, the latest binding first. -/
def find? (known : List (String × String)) (key : String) : Option String :=
  (known.find? (·.1 == key)).map (·.2)

/-- A reference between braces: its name, its default, and what follows. -/
def reference? (cs : List Char) : Option (String × String × List Char) :=
  match Text.cutFirst '\x7d' cs with
  | none => none
  | some (inside, rest) =>
    match Text.cutFirst ':' inside with
    | none => some (String.ofList inside, "", rest)
    | some (key, '-' :: other) => some (String.ofList key, String.ofList other, rest)
    | some _ => none

/-- A value with its references replaced; `skip` characters are already accounted for. -/
def expand (known : List (String × String)) : Nat → List Char → List Char
  | _, [] => []
  | skip + 1, _ :: rest => expand known skip rest
  | 0, c :: rest =>
    if c = '$' ∧ rest.head? = some '\x7b' then
      match reference? (rest.drop 1) with
      | some (key, other, tail) =>
        ((find? known key).getD other).toList ++ expand known (rest.length - tail.length) rest
      | none => c :: expand known 0 rest
    else c :: expand known 0 rest

/-- The variables that bindings define, each seeing the ones before it. -/
def resolve (known : List (String × String)) :
    List (String × Option String) → List (String × Option String)
  | [] => []
  | (key, none) :: rest => (key, none) :: resolve ((key, "") :: known) rest
  | (key, some v) :: rest =>
    let v := String.ofList (expand known 0 v.toList)
    (key, some v) :: resolve ((key, v) :: known) rest

/-- A text without the byte order mark that may begin it. -/
def dropMark : List Char → List Char
  | [] => []
  | c :: rest => if c.toNat = 0xFEFF then rest else c :: rest

/-- The variables of a file in a given environment. -/
def assignments (environment : List (String × String)) (s : String) : List (String × Option String) :=
  let cs := Text.unifyLineEnds (dropMark s.toList)
  resolve environment (bindings (cs.length + 1) cs)

end Stepwise.Dotenv
