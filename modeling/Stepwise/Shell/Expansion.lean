import Stepwise.Shell.Arithmetic
import Stepwise.Shell.Field

/-!
Expanding words. Parameters, arithmetic and the output of commands are put in their places; the result
is split into words, which are matched against files. What is quoted stays whole.
-/

namespace Stepwise.Shell.Expansion

open Run

/-- The characters at which words are split. -/
def separators : Run (List Char) := do return ((← valueOf? "IFS").getD " \t\n").toList

/-- What stands between parameters that are joined. -/
def joint : Run String := do return String.ofList ((← separators).take 1)

/-- The order in which the options that are set are told. -/
def optionOrder : List Char :=
  ['p', 'u', 'b', 'a', 'C', 'E', 'V', 'v', 'x', 's', 'n', 'm', 'i', 'I', 'f', 'e']

/-- The cells of a parameter, if it has a value. -/
def parameter? (quoted : Bool) (name : String) : Run (Option (List Cell)) := do
  let m ← get
  let plain := fun (s : String) => some (cellsOf quoted true s)
  if name = "@" ∨ (name = "*" ∧ !quoted) then
    let cells := m.parameters.map fun p =>
      if quoted then .edge :: cellsOf true false p else cellsOf false true p
    pure (some ((cells.intersperse [.border quoted]).flatten))
  else if name = "*" then return plain ((← joint).intercalate m.parameters)
  else if name = "?" then pure (plain (toString m.status))
  else if name = "#" then pure (plain (toString m.parameters.length))
  else if name = "$" then pure (plain (toString m.process))
  else if name = "!" then pure (if m.spawned = 0 then none else plain (toString (m.process + m.spawned)))
  else if name = "-" then pure (plain (String.ofList (optionOrder.filter m.options.contains)))
  else
    match name.toNat? with
    | some 0 => pure (plain m.name)
    | some n => pure ((m.parameters[n - 1]?).bind plain)
    | none => return (← valueOf? name).bind plain

/-- A value with a part cut off that a pattern covers. -/
def trimmedBy (atEnd most : Bool) (ms : List Mark) (value : String) : String :=
  let cs := value.toList
  if atEnd then
    match Mark.trailing? most ms cs with
    | some n => String.ofList (cs.take (cs.length - n))
    | none => value
  else
    match Mark.leading? most ms cs with
    | some n => String.ofList (cs.drop n)
    | none => value

/-- The home directory of a user, of the one who runs the shell if no name is given. -/
def homeOf? (user : String) : Run (Option String) := do
  if user.isEmpty then valueOf? "HOME"
  else
    return ((← get).site.homes.find? (·.1 == user)).map fun h => spelled h.2.text

/-- Text with home directories in place of the tildes that begin it or, in a list of paths, come after
a colon. `complete` tells that nothing follows the text. -/
def withHomes (paths complete : Bool) : Nat → Bool → List Char → Run Word
  | 0, _, cs => pure [.text false (String.ofList cs)]
  | n + 1, atStart, cs => do
    match atStart, cs with
    | true, '~' :: rest =>
      let user := rest.takeWhile fun c => c != '/' && !(paths && c == ':')
      let after := rest.drop user.length
      let home ← if complete || !after.isEmpty then homeOf? (String.ofList user) else pure none
      match home with
      | some h => return .text true h :: (← withHomes paths complete n false after)
      | none => return .text false (String.ofList ('~' :: user)) :: (← withHomes paths complete n false after)
    | _, _ =>
      let run := if paths then cs.takeWhile (· != ':') else cs
      match cs.drop run.length with
      | [] => pure (if run.isEmpty then [] else [.text false (String.ofList run)])
      | _ :: rest =>
        return .text false (String.ofList (run ++ [':'])) :: (← withHomes paths complete n true rest)

/-- A word with its tildes replaced. -/
def expandTildes (paths : Bool) (w : Word) : Run Word := do
  match w with
  | .text false s :: rest =>
    if s.toList.contains '~' then
      return (← withHomes paths rest.isEmpty (2 * s.length + 2) true s.toList) ++ rest
    else pure w
  | _ => pure w

/-- Text as cells; text of no length is the edge of something quoted. -/
def textCells (soft quoted : Bool) (s : String) : List Cell :=
  if s.isEmpty then [.edge] else cellsOf quoted soft s

/-- The cells of a word that is all text. -/
def cellsOfText (soft : Bool) (w : Word) : List Cell :=
  w.flatMap fun
    | .text quoted s => textCells soft quoted s
    | _ => []

section

variable (output : Command → Run String)

mutual

/-- The cells of a part of a word. `soft` tells that words may be split at text too. -/
def piece (soft : Bool) : Piece → Run (List Cell)
  | .text quoted s => pure (textCells soft quoted s)
  | .parameter quoted name use => do
    used quoted name (← parameter? quoted name) use
  | .arithmetic quoted body => do
    let s := cellText (← joint) (← pieces false false body)
    return cellsOf quoted true (toString (← Arithmetic.evaluate s).toInt)
  | .command quoted body => do
    return cellsOf quoted true (← output body)

/-- The cells of a parameter that is used in a way. -/
def used (quoted : Bool) (name : String) (value : Option (List Cell)) : Use → Run (List Cell)
  | .value => do
    if value.isNone && (← isSet 'u') then fail (name ++ ": parameter not set")
    else pure (value.getD [])
  | .length => do
    if value.isNone && (← isSet 'u') then fail (name ++ ": parameter not set")
    else return cellsOf quoted true (toString (glyphsOf (← joint) (value.getD [])).length)
  | .unusable => fail "Bad substitution"
  | .remedied emptyToo remedy word => do
    let absent := value.isNone || (emptyToo && (cellText (← joint) (value.getD [])).isEmpty)
    match remedy with
    | .substitute => if absent then pieces (!quoted) true word else pure (value.getD [])
    | .alternative => if absent then pure [] else pieces (!quoted) true word
    | .assign =>
      if absent then
        let v := cellText (← joint) (← pieces false true word)
        if isName name then
          assign name v
          pure (cellsOf quoted true v)
        else fail (name ++ ": bad variable name")
      else pure (value.getD [])
    | .complain =>
      if absent then
        let why := cellText (← joint) (← pieces false true word)
        fail (name ++ ": " ++
          if word.isEmpty then "parameter not set" ++ (if emptyToo then " or null" else "") else why)
      else pure (value.getD [])
  | .trimmed atEnd most pattern => do
    if value.isNone && (← isSet 'u') then fail (name ++ ": parameter not set")
    else
      let ms := Mark.pattern (glyphsOf (← joint) (← pieces false true pattern))
      return cellsOf quoted true (trimmedBy atEnd most ms (cellText (← joint) (value.getD [])))

/-- The cells of the parts of a word. `homes` tells that a tilde may begin it. -/
def pieces (soft homes : Bool) : List Piece → Run (List Cell)
  | [] => pure []
  | .text false s :: ps => do
    let first ← if homes then expandTildes false (.text false s :: ps) else pure []
    let cells := if first.isEmpty then textCells soft false s
      else cellsOfText soft (first.take (first.length - ps.length))
    return cells ++ (← pieces soft false ps)
  | p :: ps => do
    let first ← piece soft p
    return first ++ (← pieces soft false ps)

end

/-- The text that a word stands for where it is not split. -/
def text (w : Word) : Run String := do
  return cellText (← joint) (← pieces output false false (← expandTildes false w))

/-- The text that a document stands for. -/
def document (w : Word) : Run String := do
  return cellText (← joint) (← pieces output false false w)

/-- The value of an assignment. -/
def assigned (w : Word) : Run String := do
  return cellText (← joint) (← pieces output false false (← expandTildes true w))

/-- The pattern that a word stands for. -/
def pattern (w : Word) : Run (List Mark) := do
  return Mark.pattern (glyphsOf (← joint) (← pieces output false false (← expandTildes false w)))

/-- The files as patterns see them. -/
def listing (t : FileTree) : Listing where
  names p := match t.list p with
    | .ok names => (names.map spelled).mergeSort fun a b => decide (a ≤ b)
    | .error _ => []
  isThere p := (t.status false p).isOk
  spelled := spelled
  read s := textOf (bytes s)

/-- The words that a word stands for. -/
def words (w : Word) : Run (List String) := do
  let cells ← pieces output false false (← expandTildes false w)
  let found := fields (← separators) cells
  if ← isSet 'f' then pure (found.map fun gs => String.ofList (gs.map (·.1)))
  else
    let m ← get
    pure (found.flatMap (namesOf (listing m.files) m.directory))

end

end Stepwise.Shell.Expansion
