import Stepwise.Shell.Regex

/-!
Reading regular expressions whose alternatives and repetitions are tried in the order in which they are
written. They look ahead and behind, name their groups, and change within what counts as the same
letter.
-/

namespace Stepwise.Shell.Regex.Ordered

/-- What may be wrong with an expression. -/
inductive Flaw
  | openGroup
  | closedGroup
  | openList
  | range
  | mixedRange
  | kind
  | bareKind
  | collation
  | bounds
  | tooBig
  | repetition
  | afterQuery
  | verb
  | assertion
  | noGroup
  | lookBehind
  | backslash
  | control
  | letter
  | foreign
  | inList
  | property
  | badProperty
  | digits
  | hexadecimal
  | noBrace
  | noName
  | nameEnd
  | nameDigit
  | nameTwice
  | noReference
  | noNumber
  | comment
  | beginInside
  deriving DecidableEq, Repr

/-- A flaw in words. -/
def Flaw.message : Flaw → String
  | openGroup => "missing closing parenthesis"
  | closedGroup => "unmatched closing parenthesis"
  | openList => "missing terminating ] for character class"
  | range => "range out of order in character class"
  | mixedRange => "invalid range in character class"
  | kind => "unknown POSIX class name"
  | bareKind => "POSIX named classes are supported only within a class"
  | collation => "POSIX collating elements are not supported"
  | bounds => "numbers out of order in \x7b\x7d quantifier"
  | tooBig => "number too big in \x7b\x7d quantifier"
  | repetition => "quantifier does not follow a repeatable item"
  | afterQuery => "unrecognized character after (? or (?-"
  | verb => "(*VERB) not recognized or malformed"
  | assertion => "(*alpha_assertion) not recognized"
  | noGroup => "reference to non-existent subpattern"
  | lookBehind => "lookbehind assertion is not fixed length"
  | backslash => "\\ at end of pattern"
  | control => "\\c at end of pattern"
  | letter => "unrecognized character follows \\"
  | foreign => "PCRE2 does not support \\F, \\L, \\l, \\N\x7bname\x7d, \\U, or \\u"
  | inList => "escape sequence is invalid in character class"
  | property => "malformed \\P or \\p sequence"
  | badProperty => "unknown property after \\P or \\p"
  | digits => "digits missing in \\x\x7b\x7d or \\o\x7b\x7d or \\N\x7bU+\x7d"
  | hexadecimal => "non-hex character in \\x\x7b\x7d (closing brace missing?)"
  | noBrace => "missing opening brace after \\o"
  | noName => "subpattern name expected"
  | nameEnd => "syntax error in subpattern name (missing terminator?)"
  | nameDigit => "subpattern name must start with a non-digit"
  | nameTwice => "two named subpatterns have the same name (PCRE2_DUPNAMES not set)"
  | noReference => "\\k is not followed by a braced, angle-bracketed, or quoted name"
  | noNumber =>
    "\\g is not followed by a braced, angle-bracketed, or quoted name/number or by a plain number"
  | comment => "missing ) after (?# comment"
  | beginInside => "\\K is not allowed in lookarounds (but see PCRE2_EXTRA_ALLOW_LOOKAROUND_BSK)"

/-- Whether letters are the same in both cases, lines have borders of their own, a dot takes the end of a
line, and spaces mean nothing. -/
structure Mood where
  folding : Bool
  inLines : Bool
  dotEnds : Bool
  spaced : Bool

/-- How far reading has come: the text left, the groups begun, the names of groups, the groups referred
to, whether a lookaround is open, whether the beginning was set in one, and the mood. -/
structure Progress where
  rest : List Char
  begun : Nat
  names : List (List Char × Nat)
  wanted : List Nat
  looking : Bool
  misplaced : Bool
  mood : Mood

/-- Reading an expression. -/
abbrev Reader := StateT Progress (Except Flaw)

/-- The text left. -/
def rest : Reader (List Char) := do return (← get).rest

/-- Goes on with a text. -/
def goOn (cs : List Char) : Reader Unit := modify fun p => { p with rest := cs }

/-- The value of a hexadecimal digit. -/
def hexValue (c : Char) : Nat :=
  if c.isDigit then c.toNat - 48 else c.toLower.toNat - 87

/-- Whether a character is a hexadecimal digit. -/
def isHex (c : Char) : Bool := c.isDigit || ('a' ≤ c.toLower && c.toLower ≤ 'f')

/-- The number that digits denote. -/
def valueOf (base : Nat) (ds : List Char) : Nat := ds.foldl (fun n d => n * base + hexValue d) 0

/-- What a character after a backslash means: a character, some characters, or something else. -/
inductive Escape
  | one (c : Char)
  | among (inverted : Bool) (m : Member)
  | other (c : Char)

/-- Space within lines. -/
def levelSpaces : Member := .both (.range '\t' '\t') (.both (.kind "blank") (.range '\xa0' '\xa0'))

/-- Space between lines. -/
def lineEnds : Member := .both (.range '\n' '\r') (.both (.range '\x85' '\x85') (.range '\u2028' '\u2029'))

/-- Symbols that are neither letters nor punctuation. -/
def symbols : Member :=
  "$+<=>^|~".toList.foldl (fun m c => .both m (.range c c)) (.range '\x60' '\x60')

/-- The characters that have a property of a name. -/
def property? (name : List Char) : Option Member :=
  let digits := Member.range '0' '9'
  let spaces := Member.both (.range ' ' ' ') (.range '\xa0' '\xa0')
  match name with
  | ['L'] => some (.kind "alpha")
  | ['L', 'u'] => some (.kind "upper")
  | ['L', 'l'] => some (.kind "lower")
  | ['N'] => some digits
  | ['N', 'd'] => some digits
  | ['P'] => some (.outside (.both symbols (.outside (.kind "punct"))))
  | ['S'] => some symbols
  | ['Z'] => some spaces
  | ['Z', 's'] => some spaces
  | ['C'] => some (.kind "cntrl")
  | ['C', 'c'] => some (.kind "cntrl")
  | ['A', 'n', 'y'] => some (.both (.word) (.outside .word))
  | _ => none

/-- A property after its letter. -/
def propertyOf (inverted : Bool) (cs : List Char) : Except Flaw (Escape × List Char) :=
  let found := fun (name rest : List Char) =>
    match property? name with
    | some m => .ok (.among inverted m, rest)
    | none => .error .badProperty
  match cs with
  | '\x7b' :: more =>
    let inside := more.takeWhile fun c => c.isAlphanum || c == '_' || c == '^' || c == '&'
    match more.drop inside.length with
    | '\x7d' :: rest =>
      match inside with
      | '^' :: name => (found name rest).map fun r => match r with
        | (.among b m, rest) => (.among (!b) m, rest)
        | r => r
      | name => if name.isEmpty then .error .property else found name rest
    | _ => .error .property
  | c :: more => found [c] more
  | [] => .error .property

/-- What the text after a backslash means; groups are left to the caller. -/
def escape (cs : List Char) : Except Flaw (Escape × List Char) :=
  match cs with
  | [] => .error .backslash
  | c :: more =>
    match c with
    | 'a' => .ok (.one '\x07', more)
    | 'e' => .ok (.one '\x1b', more)
    | 'f' => .ok (.one '\x0c', more)
    | 'n' => .ok (.one '\n', more)
    | 'r' => .ok (.one '\r', more)
    | 't' => .ok (.one '\t', more)
    | 'd' => .ok (.among false (.range '0' '9'), more)
    | 'D' => .ok (.among true (.range '0' '9'), more)
    | 'w' => .ok (.among false .word, more)
    | 'W' => .ok (.among true .word, more)
    | 's' => .ok (.among false (.kind "space"), more)
    | 'S' => .ok (.among true (.kind "space"), more)
    | 'h' => .ok (.among false levelSpaces, more)
    | 'H' => .ok (.among true levelSpaces, more)
    | 'v' => .ok (.among false lineEnds, more)
    | 'V' => .ok (.among true lineEnds, more)
    | 'p' => propertyOf false more
    | 'P' => propertyOf true more
    | 'c' =>
      match more with
      | d :: rest => .ok (.one (Char.ofNat (d.toUpper.toNat.xor 64)), rest)
      | [] => .error .control
    | 'x' =>
      match more with
      | '\x7b' :: inner =>
        let ds := inner.takeWhile isHex
        match inner.drop ds.length with
        | '\x7d' :: rest => if ds.isEmpty then .error .digits else .ok (.one (Char.ofNat (valueOf 16 ds)), rest)
        | [] => .error (if ds.isEmpty then .digits else .hexadecimal)
        | _ => .error .hexadecimal
      | _ =>
        let ds := (more.take 2).takeWhile isHex
        .ok (.one (Char.ofNat (valueOf 16 ds)), more.drop ds.length)
    | 'o' =>
      match more with
      | '\x7b' :: inner =>
        let ds := inner.takeWhile fun d => '0' ≤ d && d ≤ '7'
        match inner.drop ds.length with
        | '\x7d' :: rest => if ds.isEmpty then .error .digits else .ok (.one (Char.ofNat (valueOf 8 ds)), rest)
        | _ => .error .digits
      | _ => .error .noBrace
    | '0' =>
      let ds := (more.take 2).takeWhile fun d => '0' ≤ d && d ≤ '7'
      .ok (.one (Char.ofNat (valueOf 8 ds)), more.drop ds.length)
    | c =>
      if "FLluU".toList.contains c then .error .foreign
      else if "bBAzZGKNRXEQgkC".toList.contains c || c.isDigit then .ok (.other c, more)
      else if c.isAlphanum then .error .letter
      else .ok (.one c, more)

/-- A kind of characters between brackets of its own, after the outer one. -/
def kind? (cs : List Char) : Except Flaw (Option (Member × List Char)) :=
  let closed := fun (sign : Char) (rest : List Char) =>
    let name := rest.takeWhile fun c => c.isAlpha || c == '^'
    match rest.drop name.length with
    | d :: ']' :: after => if d = sign then some (name, after) else none
    | _ => none
  match cs with
  | ':' :: rest =>
    match closed ':' rest with
    | none => .ok none
    | some (name, after) =>
      let (inverted, name) := match name with
        | '^' :: name => (true, name)
        | name => (false, name)
      let name := String.ofList name
      let member := if name = "word" then some .word
        else if name = "ascii" then some (.range '\x00' '\x7f')
        else if Member.kinds.contains name then some (.kind name) else none
      match member with
      | some m => .ok (some (if inverted then .outside m else m, after))
      | none => .error .kind
  | '.' :: rest => if (closed '.' rest).isSome then .error .collation else .ok none
  | '=' :: rest => if (closed '=' rest).isSome then .error .collation else .ok none
  | _ => .ok none

/-- What stands in a list: a character, or several. -/
inductive Item
  | one (c : Char)
  | several (m : Member)

/-- An item of a list, and what follows; nothing if only signs about quoting were read. -/
def item (quoted : Bool) (cs : List Char) : Except Flaw (Option Item × Bool × List Char) :=
  match quoted, cs with
  | true, '\\' :: 'E' :: rest => .ok (none, false, rest)
  | true, c :: rest => .ok (some (.one c), true, rest)
  | false, '\\' :: 'E' :: rest => .ok (none, false, rest)
  | false, '\\' :: 'Q' :: rest => .ok (none, true, rest)
  | false, '\\' :: 'b' :: rest => .ok (some (.one '\x08'), false, rest)
  | false, '\\' :: d :: rest =>
    if d.isDigit && d != '0' then
      let ds := ((d :: rest).take 3).takeWhile fun d => '0' ≤ d && d ≤ '7'
      if ds.isEmpty then .ok (some (.one d), false, rest)
      else .ok (some (.one (Char.ofNat (valueOf 8 ds))), false, (d :: rest).drop ds.length)
    else
      match escape (d :: rest) with
      | .error e => .error e
      | .ok (.one c, rest) => .ok (some (.one c), false, rest)
      | .ok (.among inverted m, rest) => .ok (some (.several (if inverted then .outside m else m)), false, rest)
      | .ok (.other _, _) => .error .inList
  | false, '[' :: rest =>
    match kind? rest with
    | .error e => .error e
    | .ok (some (m, after)) => .ok (some (.several m), false, after)
    | .ok none => .ok (some (.one '['), false, rest)
  | false, c :: rest => .ok (some (.one c), false, rest)
  | _, [] => .error .openList

/-- The members of a list up to its closing bracket, and what follows. -/
def members : Nat → Bool → Bool → List Char → Except Flaw (List Member × List Char)
  | 0, _, _, _ => .error .openList
  | n + 1, first, quoted, cs =>
    match cs with
    | [] => .error .openList
    | c :: after =>
      if c = ']' ∧ !first ∧ !quoted then .ok ([], after)
      else
        let add := fun (ms : List Member) (quoted : Bool) (rest : List Char) =>
          match members n false quoted rest with
          | .ok (more, rest) => .ok (ms ++ more, rest)
          | .error e => .error e
        match item quoted cs with
        | .error e => .error e
        | .ok (none, quoted, rest) => members n first quoted rest
        | .ok (some (.several m), quoted, rest) =>
          match quoted, rest with
          | false, '-' :: d :: _ => if d = ']' then add [m] quoted rest else .error .mixedRange
          | _, rest => add [m] quoted rest
        | .ok (some (.one low), quoted, rest) =>
          match quoted, rest with
          | false, '-' :: d :: more =>
            if d = ']' then add [.range low low] quoted rest
            else
              match item false (d :: more) with
              | .error e => .error e
              | .ok (some (.one high), quoted, rest) =>
                if high < low then .error .range else add [.range low high] quoted rest
              | .ok (some (.several _), _, _) => .error .mixedRange
              | .ok (none, quoted, rest) => add [.range low low, .range '-' '-'] quoted rest
          | _, rest => add [.range low low] quoted rest

/-- The bounds between braces, the opening one being read, and what follows. -/
def bounds? (cs : List Char) : Except Flaw (Option (Nat × Option Nat × List Char)) :=
  let low := cs.takeWhile Char.isDigit
  let number := fun (ds : List Char) => valueOf 10 ds
  let most := 65535
  if low.isEmpty then .ok none
  else
    match cs.drop low.length with
    | '\x7d' :: rest => if most < number low then .error .tooBig else .ok (some (number low, some (number low), rest))
    | ',' :: more =>
      let high := more.takeWhile Char.isDigit
      match more.drop high.length with
      | '\x7d' :: rest =>
        if most < number low || most < number high then .error .tooBig
        else if high.isEmpty then .ok (some (number low, none, rest))
        else if number high < number low then .error .bounds
        else .ok (some (number low, some (number high), rest))
      | _ => .ok none
    | _ => .ok none

/-- A repetition at the beginning of a text, and what follows. -/
def repetition? (cs : List Char) : Except Flaw (Option (Nat × Option Nat × List Char)) :=
  match cs with
  | '*' :: rest => .ok (some (0, none, rest))
  | '+' :: rest => .ok (some (1, none, rest))
  | '?' :: rest => .ok (some (0, some 1, rest))
  | '\x7b' :: rest => bounds? rest
  | _ => .ok none

/-- The number of characters that an expression takes, if it is always the same. -/
def length? : Regex → Option Nat
  | one _ => some 1
  | any => some 1
  | among _ _ => some 1
  | group _ r => length? r
  | folded _ r => length? r
  | once r => length? r
  | andThen r s => (length? r).bind fun a => (length? s).map (a + ·)
  | orElse r s => (length? r).bind fun a => if length? s = some a then some a else none
  | times least most _ r => if most = some least then (length? r).map (least * ·) else none
  | again _ => none
  | _ => some 0

/-- Whether each alternative has a length of its own. -/
def isMeasured : Regex → Bool
  | orElse r s => isMeasured r && isMeasured s
  | r => (length? r).isSome

/-- Passes over what means nothing where spaces do not count. -/
def unspaced : Nat → List Char → List Char
  | 0, cs => cs
  | n + 1, cs =>
    match cs with
    | '#' :: rest => unspaced n ((rest.dropWhile (· != '\n')).drop 1)
    | c :: rest => if Member.isOf "space" c then unspaced n rest else cs
    | [] => []

/-- A name up to the sign that ends it. -/
def name (stop : Char) (cs : List Char) : Except Flaw (List Char × List Char) :=
  let word := cs.takeWhile Member.isOfWords
  if cs.head?.any Char.isDigit then .error .nameDigit
  else if word.isEmpty then .error .noName
  else
    match cs.drop word.length with
    | c :: rest => if c = stop then .ok (word, rest) else .error .nameEnd
    | [] => .error .nameEnd

/-- Changes of the mood by letters: what they make of it, and the text from the sign that ends them. -/
def moodOf (mood : Mood) (on : Bool) : List Char → Except Flaw (Mood × List Char)
  | 'i' :: rest => moodOf { mood with folding := on } on rest
  | 'm' :: rest => moodOf { mood with inLines := on } on rest
  | 's' :: rest => moodOf { mood with dotEnds := on } on rest
  | 'x' :: rest => moodOf { mood with spaced := on } on rest
  | 'n' :: rest => moodOf mood on rest
  | 'J' :: rest => moodOf mood on rest
  | 'U' :: rest => moodOf mood on rest
  | '-' :: rest => if on then moodOf mood false rest else .error .afterQuery
  | ')' :: rest => .ok (mood, ')' :: rest)
  | ':' :: rest => .ok (mood, ':' :: rest)
  | [] => .error .openGroup
  | _ => .error .afterQuery

/-- An expression about a letter, in the present mood. -/
def lettered_ (r : Regex) : Reader Regex := do
  return if (← get).mood.folding then .folded true r else r

/-- Refers to a group by its number. -/
def refer (k : Nat) : Reader Regex := do
  modify fun p => { p with wanted := k :: p.wanted }
  lettered_ (.again k)

/-- Refers to a group by its name. -/
def referTo (called : List Char) : Reader Regex := do
  match (← get).names.find? (·.1 == called) with
  | some (_, k) => refer k
  | none => throw .noGroup

/-- One end of a line, in any of its forms. -/
def anyLineEnd : Regex := .once (.orElse (.andThen (.one '\r') (.one '\n')) (.among false [lineEnds]))

/-- An expression that begins with a backslash, the backslash being read, and whether it may be
repeated. -/
def escaped : Reader (Regex × Bool) := do
  let cs ← rest
  match escape cs with
  | .error e => throw e
  | .ok (.one c, after) =>
    goOn after
    return (← lettered_ (.one c), true)
  | .ok (.among inverted m, after) =>
    goOn after
    return (← lettered_ (.among inverted [m]), true)
  | .ok (.other c, after) =>
    goOn after
    match c with
    | 'b' => return (.border .wordEdge, false)
    | 'B' => return (.border .noWordEdge, false)
    | 'A' => return (.border .textStart, false)
    | 'G' => return (.border .textStart, false)
    | 'z' => return (.border .textEnd, false)
    | 'Z' => return (.border .textEnd, false)
    | 'K' =>
      modify fun p => { p with misplaced := p.misplaced || p.looking }
      return (.begin, false)
    | 'N' =>
      match after with
      | '\x7b' :: 'U' :: '+' :: inner =>
        let ds := inner.takeWhile isHex
        match ds, inner.drop ds.length with
        | _ :: _, '\x7d' :: more =>
          goOn more
          return (← lettered_ (.one (Char.ofNat (valueOf 16 ds))), true)
        | _, _ => throw .digits
      | _ => return (.among true [.range '\n' '\n'], true)
    | 'C' => return (.any, true)
    | 'X' => return (.any, true)
    | 'R' => return (anyLineEnd, true)
    | 'E' => return (.nothing, false)
    | 'Q' => return (.nothing, false)
    | 'k' =>
      let stop? := match after.head? with
        | some '<' => some '>'
        | some '\'' => some '\''
        | some '\x7b' => some '\x7d'
        | _ => none
      match stop? with
      | none => throw .noReference
      | some stop =>
        let (called, more) ← name stop (after.drop 1)
        goOn more
        return (← referTo called, true)
    | 'g' =>
      let (braced, inner) := match after with
        | '\x7b' :: inner => (true, inner)
        | inner => (false, inner)
      let (back, inner) := match inner with
        | '-' :: inner => (true, inner)
        | inner => (false, inner)
      let ds := inner.takeWhile Char.isDigit
      if ds.isEmpty then
        if braced then
          let (called, more) ← name '\x7d' inner
          goOn more
          return (← referTo called, true)
        else throw .noNumber
      else
        let k := valueOf 10 ds
        let more := inner.drop ds.length
        if braced && more.head? != some '\x7d' then throw .noNumber
        goOn (if braced then more.drop 1 else more)
        let begun := (← get).begun
        let k := if back then begun + 1 - k else k
        if k = 0 then throw .noGroup
        return (← refer k, true)
    | c =>
      let ds := c :: after.takeWhile Char.isDigit
      let k := valueOf 10 ds
      if k < 10 ∨ k ≤ (← get).begun ∨ c = '8' ∨ c = '9' then
        goOn (after.drop (ds.length - 1))
        return (← refer k, true)
      else
        let os := ((c :: after).take 3).takeWhile fun d => '0' ≤ d && d ≤ '7'
        goOn ((c :: after).drop os.length)
        return (.one (Char.ofNat (valueOf 8 os)), true)

/-- How a repetition goes on, by the sign after it. -/
def appetite : Reader Appetite := do
  match ← rest with
  | '?' :: more =>
    goOn more
    pure .lazy
  | '+' :: more =>
    goOn more
    pure .possessive
  | _ => pure .eager

/-- A list between brackets, the opening one being read. -/
def brackets : Reader Regex := do
  let cs ← rest
  match ← kind? cs with
  | some _ => throw .bareKind
  | none =>
    let (inverted, inner) := match cs with
      | '^' :: inner => (true, inner)
      | inner => (false, inner)
    let (ms, after) ← members (inner.length + 1) true false inner
    goOn after
    lettered_ (.among inverted ms)

/-- One expression after another. -/
def joined (before r : Regex) : Regex :=
  match before, r with
  | .nothing, r => r
  | before, .nothing => before
  | before, r => .andThen before r

mutual

/-- Alternatives up to what closes the group. -/
def either : Nat → Reader Regex
  | 0 => pure .nothing
  | n + 1 => do
    let r ← row n .nothing
    match ← rest with
    | '|' :: more =>
      goOn more
      return .orElse r (← either n)
    | _ => pure r

/-- A group up to the parenthesis that closes it; the mood is then as before. -/
def closed (n : Nat) (mood : Mood) : Reader Regex :=
  match n with
  | 0 => throw .openGroup
  | n + 1 => do
    let before := (← get).mood
    modify fun p => { p with mood }
    let r ← either n
    match ← rest with
    | ')' :: more =>
      modify fun p => { p with rest := more, mood := before }
      pure r
    | _ => throw .openGroup

/-- A group with a number. -/
def numbered (n : Nat) (called : Option (List Char)) : Reader Regex :=
  match n with
  | 0 => throw .openGroup
  | n + 1 => do
    let p ← get
    let k := p.begun + 1
    if called.any fun c => p.names.any (·.1 == c) then throw .nameTwice
    set { p with begun := k, names := (called.toList.map fun c => (c, k)) ++ p.names }
    return .group k (← closed n p.mood)

/-- A group that looks around. -/
def looking (n : Nat) (ahead wanted : Bool) : Reader Regex :=
  match n with
  | 0 => throw .openGroup
  | n + 1 => do
    let before := (← get).looking
    modify fun p => { p with looking := true }
    let r ← closed n (← get).mood
    modify fun p => { p with looking := before }
    if ahead then return .lookAhead wanted r
    else if isMeasured r then return .lookBehind wanted r
    else throw .lookBehind

/-- A parenthesis that was read, and what belongs to it; none if it only changes the mood. -/
def parenthesis (n : Nat) : Reader (Option Regex) :=
  match n with
  | 0 => throw .openGroup
  | n + 1 => do
    let mood := (← get).mood
    let called := fun (stop : Char) (inner : List Char) => do
      let (word, more) ← name stop inner
      goOn more
      return some (← numbered n (some word))
    match ← rest with
    | '*' :: c :: _ => throw (if c.isLower then .assertion else .verb)
    | '?' :: inner =>
      match inner with
      | [] => throw .openGroup
      | ':' :: more =>
        goOn more
        return some (← closed n mood)
      | '>' :: more =>
        goOn more
        return some (.once (← closed n mood))
      | '=' :: more =>
        goOn more
        return some (← looking n true true)
      | '!' :: more =>
        goOn more
        return some (← looking n true false)
      | '<' :: '=' :: more =>
        goOn more
        return some (← looking n false true)
      | '<' :: '!' :: more =>
        goOn more
        return some (← looking n false false)
      | '<' :: more => called '>' more
      | '\'' :: more => called '\'' more
      | 'P' :: '<' :: more => called '>' more
      | 'P' :: '=' :: more =>
        let (word, more) ← name ')' more
        goOn more
        return some (← referTo word)
      | '#' :: more =>
        match more.dropWhile (· != ')') with
        | _ :: after =>
          goOn after
          return none
        | [] => throw .comment
      | more =>
        let (mood, more) := match more with
          | '^' :: more => ((⟨false, false, false, false⟩ : Mood), more)
          | more => (mood, more)
        let (new, more) ← moodOf mood true more
        match more with
        | ':' :: more =>
          goOn more
          return some (← closed n new)
        | _ =>
          modify fun p => { p with rest := more.drop 1, mood := new }
          return none
    | _ => return some (← numbered n none)

/-- Expressions one after the other, after some of them. -/
def row : Nat → Regex → Reader Regex
  | 0, before => pure before
  | n + 1, before => do
    let mood := (← get).mood
    if mood.spaced then modify fun p => { p with rest := unspaced (p.rest.length + 1) p.rest }
    let push := fun (r : Regex) (repeatable : Bool) => do
      if (← get).mood.spaced then modify fun p => { p with rest := unspaced (p.rest.length + 1) p.rest }
      match ← repetition? (← rest) with
      | none => row n (joined before r)
      | some (least, most, more) =>
        if !repeatable then throw .repetition
        goOn more
        row n (joined before (.times least most (← appetite) r))
    match ← rest with
    | [] => pure before
    | '|' :: _ => pure before
    | ')' :: _ => pure before
    | '(' :: more =>
      goOn more
      match ← parenthesis n with
      | some r => push r true
      | none => row n before
    | '[' :: more =>
      goOn more
      push (← brackets) true
    | '.' :: more =>
      goOn more
      push (if mood.dotEnds then .any else .among true [.range '\n' '\n']) true
    | '^' :: more =>
      goOn more
      push (.border (if mood.inLines then .start else .textStart)) false
    | '$' :: more =>
      goOn more
      push (.border (if mood.inLines then .finish else .textEnd)) false
    | '\\' :: 'Q' :: more =>
      let quoted := (Text.splitOn ['\\', 'E'] more).headD []
      let word := quoted.map fun c => if mood.folding then .folded true (.one c) else .one c
      goOn (more.drop (quoted.length + 2))
      match word.getLast? with
      | none => row n before
      | some last =>
        match ← repetition? (← rest) with
        | none => row n (joined before (word.foldl joined .nothing))
        | some (least, most, more) =>
          goOn more
          row n (joined (joined before (word.dropLast.foldl joined .nothing)) (.times least most (← appetite) last))
    | '\\' :: 'E' :: more =>
      goOn more
      row n before
    | '\\' :: more =>
      goOn more
      let (r, repeatable) ← escaped
      push r repeatable
    | c :: more =>
      match ← repetition? (c :: more) with
      | some _ => throw .repetition
      | none =>
        goOn more
        push (← lettered_ (.one c)) true

end

/-- The expression that a text is; `folding` tells that case does not count, and `inLines` that lines have
borders of their own. -/
def read (folding inLines : Bool) (cs : List Char) : Except Flaw Regex :=
  match (either (4 * cs.length + 8)).run ⟨cs, 0, [], [], false, false, ⟨folding, inLines, false, false⟩⟩ with
  | .error e => .error e
  | .ok (r, p) =>
    if !p.rest.isEmpty then .error .closedGroup
    else if p.wanted.any (p.begun < ·) then .error .noGroup
    else if p.misplaced then .error .beginInside
    else .ok r

end Stepwise.Shell.Regex.Ordered
