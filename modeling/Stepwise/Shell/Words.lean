import Stepwise.Shell.Source

/-!
Reading words. A word goes on over quotes and expansions until a blank or an operator stands outside
of them; the commands in an expansion are read by `inner`, which also takes the parenthesis that
closes them if there is one.
-/

namespace Stepwise.Shell

/-- Where pieces of a word stand, which decides what ends and quotes them. -/
inductive Standing
  | word
  | mark
  | quotes (literal : Bool)
  | document
  | braces (quoted inDocument : Bool)
  | sum
  deriving DecidableEq

namespace Standing

/-- Whether text in a place is quoted as it stands. -/
def isQuoted : Standing → Bool
  | word => false
  | mark => false
  | quotes _ => true
  | document => true
  | braces quoted _ => quoted
  | sum => true

/-- Whether expansions are not read in a place. -/
def isLiteral : Standing → Bool
  | mark => true
  | quotes literal => literal
  | _ => false

/-- The characters that mean something in a place. -/
def marks : Standing → String
  | word => " \t\n&|;()<>\"'\\$`"
  | mark => " \t\n&|;()<>\"'\\$`"
  | quotes _ => "\"\\$`"
  | document => "\\$`"
  | braces quoted _ => if quoted then "\x7d\"\\$`" else "\x7d\"'\\$`"
  | sum => "()\\$`"

/-- What is missing if the script ends in a place. -/
def incomplete? : Standing → Option Misreading
  | word => none
  | mark => none
  | quotes _ => some .unterminatedQuote
  | document => none
  | braces quoted inDocument =>
    some (if quoted && !inDocument then .unterminatedQuote else .missing "\x7d")
  | sum => some (.missing "))")

/-- Whether a backslash takes the meaning of a character away; elsewhere it is text itself. -/
def escapes (p : Standing) (c : Char) : Bool :=
  !p.isQuoted || "\\$`".toList.contains c ||
    match p with
    | quotes _ => c == '"'
    | braces .. => c == '"' || c == '\x7d'
    | sum => c == '"'
    | _ => false

/-- The place of a word between braces in this place. -/
def between (p : Standing) (trimming : Bool) : Standing :=
  .braces (p.isQuoted && !trimming) (match p with
    | document => true
    | braces _ d => d
    | _ => false)

end Standing

namespace Reader

/-- The remedy of a sign. -/
def remedyOf? (c : Char) : Option Remedy :=
  match c with
  | '-' => some .substitute
  | '+' => some .alternative
  | '=' => some .assign
  | '?' => some .complain
  | _ => none

/-- The name of a parameter between braces, and whether its length is asked for; none if there is no
such parameter. -/
def braceName : Reader (Option (String × Bool)) := do
  match ← look with
  | none => pure none
  | some c =>
    if isNameStart c then return some (String.ofList (← takeWhile isNameChar), false)
    else if c.isDigit then return some (String.ofList (← takeWhile Char.isDigit), false)
    else if c = '\x7d' then pure none
    else
      let _ ← takeRaw
      if c = '#' then
        match ← look with
        | none => pure (some ("#", false))
        | some d =>
          if isNameStart d then return some (String.ofList (← takeWhile isNameChar), true)
          else if d.isDigit then return some (String.ofList (← takeWhile Char.isDigit), true)
          else
            match (← get).text.drop 1 with
            | '\x7d' :: _ =>
              if d = '\x7d' then pure (some ("#", false))
              else
                let _ ← takeRaw
                pure (if isSign d then some (String.singleton d, true) else none)
            | _ => pure (some ("#", false))
      else pure (if isSign c then some (String.singleton c, false) else none)

/-- The word between quotes; quotes around nothing still make a word, unless they hold only all
parameters. -/
def quotedWord : Word → Word
  | [.parameter true "@" .value] => allParameters
  | ps => .text true "" :: ps

/-- The pieces in reverse order with a word put behind them. -/
def pushWord (w : Word) (acc : List Piece) : List Piece :=
  w.foldl (fun acc p => match p with
    | .text q s => pushText q s.toList acc
    | p => p :: acc) acc

variable (inner : Bool → Reader Command)

mutual

/-- The pieces of a word, those read so far being in reverse order. `depth` counts parentheses. -/
def pieces (place : Standing) : Nat → Nat → List Piece → Reader Word
  | 0, _, acc => pure acc.reverse
  | n + 1, depth, acc => do
    let plain ← takeWhile fun c => !place.marks.toList.contains c
    let acc := if plain.isEmpty then acc else pushText place.isQuoted plain acc
    let c ← look
    match c with
    | none =>
      match place.incomplete? with
      | none => pure acc.reverse
      | some m => refuse m
    | some c =>
      if !place.marks.toList.contains c then pieces place n depth acc
      else if c = '\\' then
        let _ ← takeRaw
        match ← takeRaw with
        | none => pieces place n depth (pushText true ['\\'] acc)
        | some d => pieces place n depth (pushText true (if place.escapes d then [d] else ['\\', d]) acc)
      else if c = '$' then
        let _ ← takeRaw
        if place.isLiteral then pieces place n depth (pushText place.isQuoted ['$'] acc)
        else pieces place n depth (pushWord [← expansion place n] acc)
      else if c = '`' then
        let _ ← takeRaw
        if place.isLiteral then pieces place n depth (pushText place.isQuoted ['`'] acc)
        else
          match backquoted place.isQuoted [] (← get).text with
          | none => refuse .unterminatedCommand
          | some (inside, after) =>
            modify fun s =>
              { s with text := after, line := s.line + lineEnds (s.text.take (s.text.length - after.length)) }
            let body ← aside inside 0 (inner false)
            pieces place n depth (.command place.isQuoted body :: acc)
      else
        match place with
        | .sum =>
          let _ ← takeRaw
          if c = '(' then pieces place n (depth + 1) (pushText true ['('] acc)
          else if 0 < depth then pieces place n (depth - 1) (pushText true [')'] acc)
          else if ← accept ')' then pure acc.reverse
          else pieces place n depth (pushText true [')'] acc)
        | .quotes _ =>
          let _ ← takeRaw
          pure acc.reverse
        | .braces quoted inDocument =>
          let _ ← takeRaw
          if c = '\x7d' then pure acc.reverse
          else if c = '\'' then pieces place n depth (pushWord [.text true (String.ofList (← untilQuote))] acc)
          else
            let w ← pieces (.quotes false) n 0 []
            pieces place n depth (pushWord (if quoted || inDocument then w else quotedWord w) acc)
        | _ =>
          if c = '\'' then
            let _ ← takeRaw
            pieces place n depth (pushWord [.text true (String.ofList (← untilQuote))] acc)
          else if c = '"' then
            let _ ← takeRaw
            let w ← pieces (.quotes place.isLiteral) n 0 []
            pieces place n depth (pushWord (quotedWord w) acc)
          else pure acc.reverse

/-- What a dollar sign begins. -/
def expansion (place : Standing) : Nat → Reader Piece
  | 0 => pure (.text place.isQuoted "$")
  | n + 1 => do
    let quoted := place.isQuoted
    match ← look with
    | some '(' =>
      let _ ← takeRaw
      if ← accept '(' then return .arithmetic quoted (← pieces .sum n 0 [])
      else
        return .command quoted (← inner true)
    | some '\x7b' =>
      let _ ← takeRaw
      match ← braceName with
      | some (name, true) =>
        let complete := (← look) = some '\x7d'
        let _ ← pieces (place.between false) n 0 []
        pure (.parameter quoted name (if complete then .length else .unusable))
      | some (name, false) => return .parameter quoted name (← use place n)
      | none =>
        let _ ← pieces (place.between false) n 0 []
        pure (.parameter quoted "" .unusable)
    | some c =>
      if isNameStart c then return .parameter quoted (String.ofList (← takeWhile isNameChar)) .value
      else if isSign c || c.isDigit then
        let _ ← takeRaw
        pure (.parameter quoted (String.singleton c) .value)
      else pure (.text quoted "$")
    | none => pure (.text quoted "$")

/-- How the parameter before is used, up to the closing brace. -/
def use (place : Standing) : Nat → Reader Use
  | 0 => pure .value
  | n + 1 => do
    let withEmpty ← accept ':'
    match ← take with
    | none => refuse ((place.between false).incomplete?.getD .unterminatedQuote)
    | some c =>
      if c = '\x7d' && !withEmpty then pure .value
      else if (c = '#' || c = '%') && !withEmpty then
        let most ← accept c
        return .trimmed (c = '%') most (← pieces (place.between true) n 0 [])
      else
        let w ← pieces (place.between false) n 0 []
        match remedyOf? c with
        | some r => pure (.remedied withEmpty r w)
        | none => pure .unusable

end

end Reader

end Stepwise.Shell
