import Stepwise.Shell.Words

/-!
Reading the commands of a script, line by line. A list of commands ends with its line unless it
stands between words or parentheses that have to be closed. The text of a document that a command is
to read follows the line that mentions it.
-/

namespace Stepwise.Shell

namespace Reader

/-- The joint of a sign, and the descriptor it is for when none is named. -/
def jointOf (s : String) : Joint × Nat :=
  if s = ">>" then (.append, 1)
  else if s = ">&" then (.duplicate, 1)
  else if s = "<&" then (.duplicate, 0)
  else if s = "<" then (.read, 0)
  else if s = "<>" then (.readWrite, 0)
  else if s = ">|" then (.clobber, 1)
  else (.write, 1)

/-- The sign of a redirection. -/
def sign : Reader String := do
  if ← accept '>' then
    if ← accept '>' then pure ">>"
    else if ← accept '|' then pure ">|"
    else if ← accept '&' then pure ">&"
    else pure ">"
  else
    let _ ← take
    if ← accept '<' then
      if ← accept '-' then pure "<<-" else pure "<<"
    else if ← accept '&' then pure "<&"
    else if ← accept '>' then pure "<>"
    else pure "<"

/-- The names of commands that cannot be functions. -/
def specialNames : List String :=
  [".", ":", "break", "continue", "eval", "exec", "exit", "export", "readonly", "return", "set",
    "shift", "times", "trap", "unset"]

/-- How much of the text a list of commands takes: a line, a body that cannot be empty, or what
stands in an expansion or a case. -/
inductive Extent
  | line
  | body
  | inside
  deriving DecidableEq

section

variable (inner : Bool → Reader Command)

/-- A word, or the line that ends a document, that begins with the next character. -/
def wordHere (place : Standing) : Reader Word := do
  pieces inner place (2 * (← get).bound + 2) 0 []

/-- Reads the documents that were announced. -/
def documents : List Announcement → Reader Unit
  | [] => pure ()
  | a :: rest => do
    let s ← get
    let (lines, after) := documentLines a (s.text.length + 1) true [] s.text
    let body := lines.reverse.flatten
    let w ← if a.literal then pure [.text true (String.ofList body)]
      else aside body s.line (wordHere inner .document)
    modify fun t => { t with
      text := after
      line := s.line + lineEnds (s.text.take (s.text.length - after.length))
      documents := t.documents.set a.number w }
    documents rest

/-- Whether the token after the value of an alias may be an alias too. -/
def endsOpen (value : String) : Bool := value.toList.getLast?.any fun c => c == ' ' || c == '\t'

/-- Takes the next token off the text. -/
def lex : Reader Token := do
  let before ← get
  skipBlanks
  modify fun s => { s with
    open_ := before.unfolding.any fun u =>
      s.text.length ≤ u.2 && u.2 < before.text.length && before.aliases.any fun a => a.1 == u.1 && endsOpen a.2 }
  match ← look with
  | none => pure .done
  | some c =>
    if c = '\n' then
      let _ ← takeRaw
      let announced := (← get).announced
      modify fun s => { s with announced := [] }
      documents inner announced
      pure .newline
    else if c = '&' ∨ c = '|' ∨ c = ';' then
      let _ ← takeRaw
      if ← accept c then pure (.operator (String.ofList [c, c]))
      else pure (.operator (String.singleton c))
    else if c = '(' ∨ c = ')' then
      let _ ← takeRaw
      pure (.operator (String.singleton c))
    else if c = '<' ∨ c = '>' then return .redirect none (← sign)
    else
      let second := ((← get).text.drop 1).head?
      if c.isDigit && (second == some '<' || second == some '>') then
        let _ ← takeRaw
        return .redirect (some (c.toNat - 48)) (← sign)
      else
        let w ← wordHere inner .word
        pure (.word w w.bare?)

/-- The next token. -/
def next : Reader Token := do
  match (← get).ahead with
  | some t =>
    modify fun s => { s with ahead := none }
    pure t
  | none => lex inner

/-- The next token, still to be read. -/
def peek : Reader Token := do
  let t ← next inner
  modify fun s => { s with ahead := some t }
  pure t

/-- Takes at most `n` line ends. -/
def skipLines : Nat → Reader Unit
  | 0 => pure ()
  | n + 1 => do
    if (← peek inner).isNewline then
      let _ ← next inner
      skipLines n

/-- Takes all line ends at the beginning. -/
def skipAllLines : Reader Unit := do skipLines inner ((← get).bound + 1)

/-- Takes a token that has to come. -/
def demand (wanted : String) : Reader Unit := do
  let t ← next inner
  if t.isOperator wanted || t.isBare wanted then pure () else unexpected t (some wanted) true

/-- The value of the alias that a token is, unless it is being read already. -/
def unfolded? (t : Token) (s : Source) : Option (String × String) :=
  match t with
  | .word _ (some name) =>
    if Token.keywords.contains name || s.unfolding.any fun u => u.1 == name && u.2 ≤ s.text.length
    then none
    else s.aliases.find? (·.1 == name)
  | _ => none

/-- The next token where a command may begin, at most `n` aliases being replaced. -/
def peekCommand : Nat → Reader Token
  | 0 => peek inner
  | n + 1 => do
    let t ← peek inner
    match unfolded? t (← get) with
    | none => pure t
    | some (name, value) =>
      modify fun s => { s with
        ahead := none, text := value.toList ++ s.text, bound := s.bound + value.length
        unfolding := (name, s.text.length) :: s.unfolding }
      peekCommand n

/-- The next token where a command may begin. -/
def peekFirst : Reader Token := do peekCommand inner ((← get).aliases.length + 1)

/-- The next token where a word may follow. -/
def peekWord : Reader Token := do
  let t ← peek inner
  if (← get).open_ then peekFirst inner else pure t

/-- The line that ends a document, and whether any of it is quoted. -/
def markOf (w : Word) : String × Bool :=
  let text := fun
    | Piece.text _ s => s
    | _ => ""
  let isQuoted := fun
    | Piece.text quoted _ => quoted
    | _ => false
  (String.join (w.map text), w.any isQuoted)

/-- A redirection, its sign being read. -/
def redirection (descriptor : Option Nat) (s : String) : Reader Redirection := do
  if s = "<<" ∨ s = "<<-" then
    skipBlanks
    match ← look with
    | some c =>
      if "\n&|;()<>".toList.contains c then unexpected (← next inner) none false
      else
        let (mark, literal) := markOf (← wordHere inner .mark)
        let number := (← get).documents.length
        modify fun t => { t with
          documents := t.documents ++ [[]]
          announced := t.announced ++ [⟨number, mark, literal, s == "<<-"⟩] }
        pure (.document (descriptor.getD 0) number)
    | none => unexpected .done none false
  else
    match ← next inner with
    | .word w _ => pure (.file (descriptor.getD (jointOf s).2) (jointOf s).1 w)
    | t => unexpected t none false

/-- At most `n` redirections at the beginning. -/
def redirections : Nat → Reader (List Redirection)
  | 0 => pure []
  | n + 1 => do
    match ← peek inner with
    | .redirect d s =>
      let _ ← next inner
      let first ← redirection inner d s
      return first :: (← redirections n)
    | _ => pure []

/-- The words of a list that is gone through. -/
def items : Nat → List Word → Reader (List Word)
  | 0, ws => pure ws.reverse
  | n + 1, ws => do
    match ← next inner with
    | .word w _ => items n (w :: ws)
    | .newline => pure ws.reverse
    | .operator ";" => pure ws.reverse
    | t => unexpected t none false

/-- The patterns of a case after the first token, up to the parenthesis. -/
def patterns : Nat → Token → Reader (List Word)
  | 0, _ => pure []
  | n + 1, t => do
    let first := match t with
      | .word w _ => [w]
      | _ => []
    let after ← if t.isDone then pure t else next inner
    if after.isOperator "|" then return first ++ (← patterns n (← next inner))
    else if after.isOperator ")" then pure first
    else unexpected after (some ")") false

/-- A simple command so far: assignments, words and redirections, each in reverse order. -/
structure Draft where
  assignments : List (String × Word)
  words : List Word
  redirections : List Redirection

/-- The simple command of a draft. -/
def Draft.command (d : Draft) (line : Nat) : Command :=
  .simple line d.assignments.reverse d.words.reverse d.redirections.reverse

/-- The name of a function that a draft may begin to define. -/
def Draft.candidate? (d : Draft) : Option Word :=
  match d with
  | ⟨[], [w], []⟩ => some w
  | _ => none

mutual

/-- Commands up to a token that cannot go on, after those read so far. -/
def commands (extent : Extent) : Nat → Bool → Command → Reader Command
  | 0, _, before => pure before
  | n + 1, started, before => do
    if extent ≠ .line then skipAllLines inner
    let t ← peekFirst inner
    if t.isNewline then
      let _ ← next inner
      pure before
    else if t.isDone || (extent ≠ .line && (started || extent = .inside) && t.isEnd) then pure before
    else
      let first ← chain n
      let after ← peek inner
      let joined := fun (c : Command) => if before.isNothing then c else .sequence before c
      if after.isOperator "&" then
        let _ ← next inner
        commands extent n true (joined (.background first))
      else if after.isOperator ";" then
        let _ ← next inner
        commands extent n true (joined first)
      else if after.isNewline then commands extent n true (joined first)
      else if after.isDone || extent ≠ .line then pure (joined first)
      else unexpected after none true

/-- Pipelines joined by conditions. -/
def chain : Nat → Reader Command
  | 0 => pure .nothing
  | n + 1 => do chainAfter n (← pipeline n)

/-- The pipelines that depend on one before them. -/
def chainAfter : Nat → Command → Reader Command
  | 0, first => pure first
  | n + 1, first => do
    let t ← peek inner
    if t.isOperator "&&" || t.isOperator "||" then
      let _ ← next inner
      skipAllLines inner
      let second ← pipeline n
      chainAfter n (if t.isOperator "&&" then .both first second else .either first second)
    else pure first

/-- Commands joined by pipes, perhaps negated. -/
def pipeline : Nat → Reader Command
  | 0 => pure .nothing
  | n + 1 => do
    let negated := (← peekFirst inner).isBare "!"
    if negated then
      let _ ← next inner
    let first ← command n
    let stages ← stagesAfter n [first]
    let c := match stages with
      | [c] => c
      | cs => .pipe cs.reverse
    pure (if negated then .negated c else c)

/-- The commands of a pipe, in reverse order, after some of them. -/
def stagesAfter : Nat → List Command → Reader (List Command)
  | 0, cs => pure cs
  | n + 1, cs => do
    if (← peek inner).isOperator "|" then
      let _ ← next inner
      skipAllLines inner
      let c ← command n
      stagesAfter n (c :: cs)
    else pure cs

/-- A single command. -/
def command : Nat → Reader Command
  | 0 => pure .nothing
  | n + 1 => do
    let t ← peekFirst inner
    let line := (← get).line + 1
    let compound := fun (closing : String) (c : Command) => do
      demand inner closing
      let rs ← redirections inner (← get).bound
      pure (if rs.isEmpty then c else .redirected line c rs)
    match t with
    | .operator "(" =>
      let _ ← next inner
      let c ← commands .body n false .nothing
      demand inner ")"
      return .subshell line c (← redirections inner (← get).bound)
    | .word _ (some s) =>
      let isFirst := ["\x7b", "if", "while", "until", "for", "case"].contains s
      if isFirst then
        let _ ← next inner
      if s = "\x7b" then compound "\x7d" (← commands .body n false .nothing)
      else if s = "if" then compound "fi" (← conditional n)
      else if s = "while" ∨ s = "until" then
        let condition ← commands .body n false .nothing
        demand inner "do"
        compound "done" (.loop (s == "while") condition (← commands .body n false .nothing))
      else if s = "for" then compound "done" (← traversal n line)
      else if s = "case" then
        let subject ← match ← next inner with
          | .word w _ => pure w
          | t => unexpected t (some "word") false
        skipAllLines inner
        demand inner "in"
        compound "esac" (.branch line subject (← cases n))
      else if Token.keywords.contains s then unexpected t none true
      else simple line n ⟨[], [], []⟩
    | .word _ none => simple line n ⟨[], [], []⟩
    | .redirect .. => simple line n ⟨[], [], []⟩
    | t => unexpected t none true

/-- A simple command, or the definition of a function. -/
def simple (line : Nat) : Nat → Draft → Reader Command
  | 0, d => pure (d.command line)
  | n + 1, d => do
    match ← (if d.words.isEmpty then peekFirst inner else peekWord inner) with
    | .word w _ =>
      let _ ← next inner
      match if d.words.isEmpty then w.assignment? else none with
      | some a => simple line n { d with assignments := a :: d.assignments }
      | none => simple line n { d with words := w :: d.words }
    | .redirect descriptor s =>
      let _ ← next inner
      let r ← redirection inner descriptor s
      simple line n { d with redirections := r :: d.redirections }
    | .operator "(" =>
      match d.candidate? with
      | none => pure (d.command line)
      | some w =>
        let _ ← next inner
        let t ← next inner
        if !t.isOperator ")" then unexpected t (some ")") false
        let name := (w.bare?.getD "")
        if !isName name || specialNames.contains name then refuse .badFunctionName
        else
          let here := (← get).line + 1
          skipAllLines inner
          return .define here name (← command n)
    | _ => pure (d.command line)

/-- A choice, its first word being read. -/
def conditional : Nat → Reader Command
  | 0 => pure .nothing
  | n + 1 => do
    let condition ← commands .body n false .nothing
    demand inner "then"
    let yes ← commands .body n false .nothing
    let t ← peek inner
    if t.isBare "elif" then
      let _ ← next inner
      return .choice condition yes (← conditional n)
    else if t.isBare "else" then
      let _ ← next inner
      return .choice condition yes (← commands .body n false .nothing)
    else pure (.choice condition yes .nothing)

/-- A loop over words up to its body, its first word being read. -/
def traversal : Nat → Nat → Reader Command
  | 0, _ => pure .nothing
  | n + 1, line => do
    match ← next inner with
    | .word _ (some name) =>
      if !isName name then refuse .badVariable
      else
        skipAllLines inner
        let t ← peek inner
        let words ← if t.isBare "in" then
            let _ ← next inner
            items inner (← get).bound []
          else
            if t.isOperator ";" then
              let _ ← next inner
            pure [allParameters]
        skipAllLines inner
        demand inner "do"
        return .each line name words (← commands .body n false .nothing)
    | _ => refuse .badVariable

/-- The cases of a branch, before its last word. -/
def cases : Nat → Reader (List (List Word × Command))
  | 0 => pure []
  | n + 1 => do
    skipAllLines inner
    if (← peek inner).isBare "esac" then pure []
    else
      let t ← next inner
      let ps ← patterns inner (← get).bound
        (← if t.isOperator "(" then next inner else pure t)
      let body ← commands .inside n false .nothing
      skipAllLines inner
      let t ← peek inner
      if t.isBare "esac" then pure [(ps, body)]
      else
        demand inner ";;"
        return (ps, body) :: (← cases n)

end

/-- A list of commands that may be empty, and the parenthesis after it if there is one. -/
def inside (closed : Bool) : Reader Command := do
  let c ← commands inner .inside (8 * (← get).bound + 8) false .nothing
  if closed then demand inner ")"
  pure c

end

/-- The commands in expansions, which are nested at most `n` deep. -/
def nested : Nat → Bool → Reader Command
  | 0 => fun _ => pure .nothing
  | n + 1 => inside (nested n)

/-- The commands of the next line, none at the end of the script. -/
def line : Reader (Option Command) := do
  let depth := (← get).bound + 1
  let inner := nested depth
  match ← next inner with
  | .done => pure none
  | .newline => pure (some .nothing)
  | t =>
    modify fun s => { s with ahead := some t }
    return some (← commands inner .line (8 * depth) false .nothing)

end Reader

end Stepwise.Shell
