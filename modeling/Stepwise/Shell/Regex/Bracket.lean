import Stepwise.Shell.Regex

/-!
Lists of characters between brackets, as regular expressions have them, and what may be wrong with a
regular expression.
-/

namespace Stepwise.Shell.Regex

/-- What may be wrong with a regular expression. -/
inductive Flaw
  | incomplete
  | range
  | kind
  | collation
  | bounds
  | openBounds
  | openBracket
  | openGroup
  | closedGroup
  | noGroup
  | repetition
  | backslash
  | tooBig
  | colons
  deriving DecidableEq, Repr

/-- A flaw in words. -/
def Flaw.message : Flaw → String
  | incomplete => "Invalid regular expression"
  | range => "Invalid range end"
  | kind => "Invalid character class name"
  | collation => "Invalid collation character"
  | bounds => "Invalid content of \\\x7b\\\x7d"
  | openBounds => "Unmatched \\\x7b"
  | openBracket => "Unmatched [, [^, [:, [., or [="
  | openGroup => "Unmatched ( or \\("
  | closedGroup => "Unmatched ) or \\)"
  | noGroup => "Invalid back reference"
  | repetition => "Invalid preceding regular expression"
  | backslash => "Trailing backslash"
  | tooBig => "Regular expression too big"
  | colons => "character class syntax is [[:space:]], not [:space:]"

/-- An element of a list: a character, one that is named, those like one, or those of a kind. -/
inductive Element
  | one (c : Char)
  | named (name : List Char)
  | alike (name : List Char)
  | kind (name : List Char)
  deriving DecidableEq, Repr

namespace Element

/-- The longest name that is read. -/
def longestName : Nat := 32

/-- The name up to a sign and a closing bracket, and what follows. -/
def name? (sign : Char) : Nat → List Char → Option (List Char × List Char)
  | 0, _ => none
  | _, [] => none
  | _, [_] => none
  | n + 1, c :: d :: rest =>
    if c = sign ∧ d = ']' then some ([], rest)
    else (name? sign n (d :: rest)).map fun r => (c :: r.1, r.2)

/-- An element at the beginning of a text. A hyphen has to be the last one unless it may stand here. -/
def read (hyphen : Bool) (cs : List Char) : Except Flaw (Element × List Char) :=
  let called := fun (sign : Char) (make : List Char → Element) (rest : List Char) =>
    match name? sign longestName rest with
    | some (name, rest) => .ok (make name, rest)
    | none => .error .openBracket
  match cs with
  | '[' :: '.' :: rest => called '.' named rest
  | '[' :: '=' :: rest => called '=' alike rest
  | '[' :: ':' :: rest => called ':' kind rest
  | '-' :: rest => if hyphen || rest.head? == some ']' then .ok (one '-', rest) else .error .range
  | c :: rest => .ok (one c, rest)
  | [] => .error .openBracket

/-- The character that begins or ends a range. -/
def bound : Element → Except Flaw Char
  | one c => .ok c
  | named [c] => .ok c
  | named _ => .error .collation
  | _ => .error .range

/-- The characters that an element by itself stands for. -/
def member : Element → Except Flaw Member
  | one c => .ok (.range c c)
  | named [c] => .ok (.range c c)
  | alike [c] => .ok (.range c c)
  | kind name =>
    let name := String.ofList name
    if Member.kinds.contains name then .ok (.kind name) else .error .kind
  | _ => .error .collation

end Element

/-- What was read between brackets: the members, and whether a single colon or another character came
first, last, or at all, and something that is not a single character. -/
structure Listing_ where
  members : List Member
  elements : List (Option Char)

namespace Listing_

/-- Whether a kind of characters seems to be meant that lacks its own brackets. -/
def isColons (l : Listing_) : Bool :=
  l.elements.head? == some (some ':') && l.elements.getLast? == some (some ':') &&
    l.elements.all Option.isSome && l.elements.any (· != some ':')

/-- The elements of a list up to its closing bracket, and what follows. Ranges may run backwards, and
then hold nothing, if that is allowed. -/
def read (downward : Bool) : Nat → Bool → List Char → Except Flaw (Listing_ × List Char)
  | 0, _, _ => .error .openBracket
  | n + 1, first, cs => do
    let goOn := fun (m : List Member) (e : List (Option Char)) (rest : List Char) =>
      match rest with
      | [] => .error .openBracket
      | ']' :: after => .ok (⟨m, e⟩, after)
      | rest =>
        match read downward n false rest with
        | .ok (l, after) => .ok (⟨m ++ l.members, e ++ l.elements⟩, after)
        | .error e => .error e
    let (e, rest) ← Element.read first cs
    let shape := match e with
      | .one c => some c
      | _ => none
    match e, rest with
    | .kind _, rest => goOn [← e.member] [shape] rest
    | .alike _, rest => goOn [← e.member] [shape] rest
    | _, [] => .error .openBracket
    | _, ['-'] => .error .openBracket
    | _, '-' :: ']' :: after => pure (⟨[← e.member, .range '-' '-'], [shape, some '-']⟩, after)
    | _, '-' :: after => do
      let (f, rest) ← Element.read true after
      let low ← e.bound
      let high ← f.bound
      if high < low ∧ !downward then throw .range
      goOn [.range low high] [none] rest
    | _, rest => goOn [← e.member] [shape] rest

end Listing_

end Stepwise.Shell.Regex
