import Stepwise.Shell.Pattern
import Stepwise.Shell.Tools.Files

/-!
Programs that tell about paths: `ls`, `find`, `basename`, `dirname`, `readlink`, `realpath` and `pwd`.
-/

namespace Stepwise.Shell.Tools

open Run

/-- The names in a directory in the letters of the shell, in order. -/
def namesIn (a : String) : Run (List String) := do
  let path ← locate a
  return (((← ask fun t => t.list path).toOption.getD []).map spelled).mergeSort fun a b => decide (a ≤ b)

/-- Names in the order that is asked for: by the time of their last change or by size, the latest and
greatest first, or by letters. -/
def ordered (p : Parsed) (path : String → String) (names : List String) : Run (List String) := do
  let names := names.mergeSort fun a b => decide (a ≤ b)
  let keyed ← names.mapM fun s => do
    let key : Int ← if p.has 't' then timeAt ((← placeOf false (path s)).getD [])
      else if p.has 'S' then
        pure (match ← nodeAt false (path s) with
          | .ok (.file bs) => (bs.length : Int)
          | .ok .directory => 4096
          | _ => 0)
      else pure 0
    pure (s, key)
  let names := if p.has 'U' || p.has 'f' then names
    else (keyed.mergeSort fun x y => decide (y.2 ≤ x.2)).map (·.1)
  pure (if p.has 'r' then names.reverse else names)

/-- A name as `ls` shows it. -/
def decorated (p : Parsed) (a shown : String) : Run String := do
  let shown := if p.has 'Q' then "\"" ++ shown ++ "\"" else shown
  if p.has 'F' || p.has 'p' then
    match ← nodeAt false a with
    | .ok .directory => pure (shown ++ "/")
    | .ok (.link _) => pure (if p.has 'F' then shown ++ "@" else shown)
    | _ => return if p.has 'F' && (← Condition.isProgram a) then shown ++ "*" else shown
  else pure shown

/-- Writes names in the form that is asked for. -/
def writeNames (p : Parsed) (names : List String) : Run Unit :=
  if names.isEmpty then pure ()
  else if p.has 'm' then write 1 (Text.joinText ", " names ++ "\n")
  else if p.has 'x' || p.has 'C' then write 1 (Text.joinText "  " names ++ "\n")
  else write 1 (String.join (names.map (· ++ "\n")))

/-- Lists directories, and those in them if that is asked for; a line stands between them. -/
def listDirectories (p : Parsed) (titled : Bool) : Nat → Bool → List String → Run Unit
  | 0, _, _ => pure ()
  | _, _, [] => pure ()
  | n + 1, first, a :: rest => do
    if titled then write 1 ((if first then "" else "\n") ++ a ++ ":\n")
    let all ← namesIn a
    let visible := all.filter fun s => p.has 'a' || p.has 'A' || p.has 'f' || s.toList.head? != some '.'
    let names := if p.has 'a' || p.has 'f' then
        (("." :: ".." :: visible).mergeSort fun a b => decide (a ≤ b))
      else visible
    let names ← ordered p (inDirectory a) names
    writeNames p (← names.mapM fun s => decorated p (inDirectory a s) s)
    let below ← if p.has 'R' then
        (visible.map (inDirectory a)).filterM fun s => do
          match ← nodeAt false s with
          | .ok .directory => pure true
          | _ => pure false
      else pure []
    listDirectories p titled n false (below ++ rest)

def ls (args : List String) : Run Nat :=
  let known := lettered "aAdFprRlhnitSUX1mxCQfgosqukcNLbBGHw:I:T:".toList ++
    worded [("all", 'a', false), ("almost-all", 'A', false), ("author", '@', false), ("directory", 'd', false),
      ("recursive", 'R', false), ("reverse", 'r', false), ("classify", 'F', false), ("quote-name", 'Q', false)]
  withOptions "ls" 2 known false args fun p => do
    let operands := if p.operands.isEmpty then ["."] else p.operands
    let follow := !(p.has 'd' || p.has 'F' || p.has 'l')
    let found ← operands.mapM fun a => return (a, ← nodeAt follow a)
    let status ← found.foldlM (fun status (a, r) => do
      match r with
      | .ok _ => pure status
      | .error e =>
        match ← nodeAt false a with
        | .ok _ => pure status
        | .error _ => return max status (← fault "ls" ("cannot access " ++ quoted a ++ ": " ++ reason e) 2)) 0
    let known := found.filter fun (_, r) => r.isOk
    let isDir := fun (x : String × Except Fault Node) => x.2.toOption == some Node.directory && !p.has 'd'
    let files ← ordered p id ((known.filter (!isDir ·)).map (·.1))
    let dirs ← ordered p id ((known.filter isDir).map (·.1))
    writeNames p (← files.mapM fun a => decorated p a a)
    if !files.isEmpty && !dirs.isEmpty then write 1 "\n"
    listDirectories p (1 < operands.length || p.has 'R') 100000 true dirs
    pure status

def basename (args : List String) : Run Nat :=
  let known := lettered "as:z".toList ++ worded [("multiple", 'a', false), ("suffix", 's', true)]
  withOptions "basename" 1 known true args fun p => do
    let cut := fun (a ending : String) =>
      let name := (lastName a).toList
      let name := if name.isEmpty && !a.isEmpty then ['/'] else name
      let e := ending.toList
      if e != name && e.reverse.isPrefixOf name.reverse then name.take (name.length - e.length) else name
    let tell := fun (a ending : String) => out (cut a ending ++ ['\n'])
    match p.operands with
    | [] => missingOperand "basename"
    | a :: rest =>
      if p.has 'a' || p.has 's' then
        (a :: rest).forM fun a => tell a ((p.value? 's').getD "")
        pure 0
      else
        match rest with
        | [] =>
          tell a ""
          pure 0
        | [ending] =>
          tell a ending
          pure 0
        | _ :: c :: _ => fault "basename" ("extra operand " ++ named c ++ hint "basename") 1

/-- What stands before the last name of an argument. -/
def directoryName (a : String) : String :=
  let above := (unslash a).toList.reverse.dropWhile (· != '/')
  match above.dropWhile (· == '/') with
  | [] => if above.isEmpty && unslash a != "/" then "." else "/"
  | cs => String.ofList cs.reverse

def dirname (args : List String) : Run Nat :=
  withOptions "dirname" 1 (lettered ['z']) true args fun p => do
    if p.operands.isEmpty then missingOperand "dirname"
    else
      p.operands.forM fun a => write 1 (directoryName a ++ "\n")
      pure 0

/-- The path without links of what an argument spells, as long as all above it is there. -/
def canonical (needed : Bool) (a : String) : Run (Except Fault String) := do
  let path ← locate a
  if a.isEmpty then pure (.error (.system ⟨.noEntry, []⟩))
  else
    match ← ask fun t => t.spot true path with
    | .error e => pure (.error e)
    | .ok s =>
      if needed && s.node.isNone then pure (.error (.system ⟨.noEntry, []⟩))
      else pure (.ok (spelled (Path.mk "/" s.place).text))

/-- The path without links and dots of what an argument spells, whether or not it is there. -/
def canonicalAnyway (a : String) : Run String := do
  let path ← locate a
  let place ← path.parts.foldlM (fun (here : Place) part => do
    if part = "." then pure here
    else if part = ".." then pure here.dropLast
    else
      match ← ask fun t => t.spot true ⟨"/", here ++ [part]⟩ with
      | .ok s => pure (if s.node.isSome then s.place else here ++ [part])
      | .error _ => pure (here ++ [part])) []
  pure (spelled (Path.mk "/" place).text)

/-- A path seen from another one. -/
def relativeTo (base path : String) : String :=
  let parts (s : String) : List (List Char) := (Text.splitAt '/' s.toList).filter (!·.isEmpty)
  let rec go : List (List Char) → List (List Char) → List (List Char)
    | x :: xs, y :: ys => if x = y then go xs ys else (x :: xs).map (fun _ => ['.', '.']) ++ y :: ys
    | xs, ys => xs.map (fun _ => ['.', '.']) ++ ys
  let steps := go (parts base) (parts path)
  if steps.isEmpty then "." else String.ofList (Text.join ['/'] steps)

def readlink (args : List String) : Run Nat :=
  let known := lettered "femnqsvz".toList ++
    worded [("canonicalize", 'f', false), ("canonicalize-existing", 'e', false),
      ("canonicalize-missing", 'm', false), ("no-newline", 'n', false)]
  withOptions "readlink" 1 known false args fun p => do
    let ending := if p.has 'n' && p.operands.length = 1 then "" else "\n"
    if p.operands.isEmpty then missingOperand "readlink"
    else forEach (fun a => do
      if p.has 'f' || p.has 'e' || p.has 'm' then
        match ← (if p.has 'm' && !a.isEmpty then .ok <$> canonicalAnyway a else canonical (p.has 'e') a) with
        | .ok s =>
          write 1 (s ++ ending)
          pure 0
        | .error e =>
          if p.has 'v' then fault "readlink" (shown a ++ ": " ++ reason e) 1 else pure 1
      else
        match ← nodeAt false a with
        | .ok (.link target) =>
          write 1 (spelled target ++ ending)
          pure 0
        | .ok _ => if p.has 'v' then fault "readlink" (shown a ++ ": Invalid argument") 1 else pure 1
        | .error e => if p.has 'v' then fault "readlink" (shown a ++ ": " ++ reason e) 1 else pure 1) p.operands

def realpath (args : List String) : Run Nat :=
  let known := lettered "emLPqsz".toList ++
    worded [("canonicalize-existing", 'e', false), ("canonicalize-missing", 'm', false), ("quiet", 'q', false),
      ("no-symlinks", 's', false), ("relative-to", '1', true), ("relative-base", '2', true)]
  withOptions "realpath" 1 known false args fun p => do
    if p.operands.isEmpty then missingOperand "realpath"
    else
      let resolved := fun (a : String) =>
        if a.isEmpty then canonical true a
        else if p.has 's' || p.has 'L' then do
          let path ← locate a
          pure (.ok (spelled (Path.mk "/" (Path.collapse [] path.parts)).text))
        else if p.has 'm' then .ok <$> canonicalAnyway a
        else canonical (p.has 'e') a
      let base? ← match p.value? '1' with
        | some b => (·.toOption) <$> resolved b
        | none => pure none
      forEach (fun a => do
        match ← resolved a with
        | .ok s =>
          write 1 ((match base? with
            | some b => relativeTo b s
            | none => s) ++ (if p.has 'z' then "\x00" else "\n"))
          pure 0
        | .error e =>
          if p.has 'q' then pure 1
          else fault "realpath" (shown a ++ ": " ++ reason e) 1) p.operands

def pwd (args : List String) : Run Nat :=
  let known := lettered "LP".toList ++ worded [("logical", 'L', false), ("physical", 'P', false)]
  withOptions "pwd" 1 known false args fun _ => do
    let here := (← get).directory
    let place := match ← ask fun t => t.spot true here with
      | .ok s => Path.mk "/" s.place
      | .error _ => here
    write 1 (spelled place.text ++ "\n")
    pure 0

/-- A condition on a file that is found: its name, its kind, its being empty, another condition
negated, or both or one of two. -/
inductive Finding
  | always (answer : Bool)
  | named (folding whole : Bool) (ms : List Mark)
  | kind (letters : List Char)
  | empty
  | newer (than : String)
  | sized (sign : Option Char) (count : Nat) (unit : Nat)
  | told (zero : Bool)
  | deleted
  | carried (words : List String)
  | negated (f : Finding)
  | both (f g : Finding)
  | either (f g : Finding)

namespace Finding

/-- Whether a condition does something with what is found. -/
def acts : Finding → Bool
  | told _ => true
  | deleted => true
  | carried _ => true
  | negated f => f.acts
  | both f g => f.acts || g.acts
  | either f g => f.acts || g.acts
  | _ => false

/-- The pattern of a text. -/
def patternOf (s : String) : List Mark := Mark.pattern (s.toList.map fun c => (c, false))

/-- Whether a condition holds of a path; what it asks to be done is done. -/
def holds (run : Launcher) (a : String) : Finding → Run Bool
  | always b => pure b
  | named folding whole ms => do
    let cs := (if whole then a else let n := lastName a; if n.isEmpty then "/" else n).toList
    pure (Mark.covers ms (if folding then cs.map Char.toLower else cs))
  | kind letters => do
    pure <| match ← nodeAt false a with
      | .ok .directory => letters.contains 'd'
      | .ok (.file _) => letters.contains 'f'
      | .ok (.link _) => letters.contains 'l'
      | .error _ => false
  | empty => do
    match ← nodeAt false a with
    | .ok .directory => return (← namesIn a).isEmpty
    | .ok (.file bs) => pure bs.isEmpty
    | _ => pure false
  | newer than => do
    let mine ← timeAt ((← placeOf false a).getD [])
    let other ← timeAt ((← placeOf true than).getD [])
    pure (decide (other < mine))
  | sized sign count unit => do
    let bytes := match ← nodeAt false a with
      | .ok (.file bs) => bs.length
      | .ok (.link target) => target.utf8ByteSize
      | _ => 4096
    let units := (bytes + unit - 1) / unit
    pure (match sign with
      | some '+' => decide (count < units)
      | some _ => decide (units < count)
      | none => units == count)
  | told zero => do
    write 1 (a ++ if zero then "\x00" else "\n")
    pure true
  | deleted => do
    let path ← locate a
    let failed ← match ← nodeAt false a with
      | .ok .directory => edit fun t => t.removeDirectory path
      | _ => edit fun t => t.removeFile path
    match failed with
    | none => pure true
    | some e =>
      let _ ← fault "find" ("cannot delete " ++ Tools.named a ++ ": " ++ reason e) 1
      pure false
  | carried words => do
    let swap := fun (w : String) => String.ofList (Text.join a.toList (Text.splitOn "\x7b\x7d".toList w.toList))
    return (← run (words.map swap)) == some 0
  | negated f => do return !(← holds run a f)
  | both f g => do if ← holds run a f then holds run a g else pure false
  | either f g => do if ← holds run a f then pure true else holds run a g

end Finding

/-- The size that a text asks for: a sign for more or less, a number, and a letter for its unit. -/
def sizeAsked? (s : String) : Option Finding :=
  let (sign, body) := match s.toList with
    | '+' :: rest => (some '+', rest)
    | '-' :: rest => (some '-', rest)
    | rest => (none, rest)
  let digits := body.takeWhile Char.isDigit
  let unit? := match body.drop digits.length with
    | [] => some 512
    | ['b'] => some 512
    | ['c'] => some 1
    | ['w'] => some 2
    | ['k'] => some 1024
    | ['M'] => some 1048576
    | ['G'] => some 1073741824
    | _ => none
  match (String.ofList digits).toNat?, unit? with
  | some n, some unit => some (.sized sign n unit)
  | _, _ => none

/-- What `find` is asked for: a condition, the least and greatest depth, and whether directories come
after what is in them. -/
structure Search where
  least : Nat
  most : Nat
  last : Bool

mutual

/-- Conditions of which one has to hold. -/
def findEither : Nat → List String → Except String (Finding × List String)
  | 0, _ => .error "paths must precede expression"
  | n + 1, args => do
    let (f, rest) ← findBoth n args
    match rest with
    | op :: more =>
      if op = "-o" ∨ op = "-or" then
        let (g, rest) ← findEither n more
        pure (.either f g, rest)
      else pure (f, rest)
    | [] => pure (f, [])

/-- Conditions that all have to hold. -/
def findBoth : Nat → List String → Except String (Finding × List String)
  | 0, _ => .error "paths must precede expression"
  | n + 1, args => do
    let (f, rest) ← findOne n args
    match rest with
    | [] => pure (f, [])
    | op :: more =>
      if op = "-o" ∨ op = "-or" ∨ op = ")" then pure (f, rest)
      else
        let (g, rest) ← findBoth n (if op = "-a" ∨ op = "-and" then more else rest)
        pure (.both f g, rest)

/-- A single condition. -/
def findOne : Nat → List String → Except String (Finding × List String)
  | 0, _ => .error "paths must precede expression"
  | n + 1, args =>
    match args with
    | [] => .error "expected an expression"
    | "!" :: rest => (findOne n rest).map fun r => (.negated r.1, r.2)
    | "-not" :: rest => (findOne n rest).map fun r => (.negated r.1, r.2)
    | "(" :: rest =>
      match findEither n rest with
      | .ok (f, ")" :: after) => .ok (f, after)
      | .ok _ => .error "invalid expression; I was expecting to find a ')' somewhere but did not see one."
      | .error e => .error e
    | "-print" :: rest => .ok (.told false, rest)
    | "-print0" :: rest => .ok (.told true, rest)
    | "-delete" :: rest => .ok (.deleted, rest)
    | "-empty" :: rest => .ok (.empty, rest)
    | "-true" :: rest => .ok (.always true, rest)
    | "-false" :: rest => .ok (.always false, rest)
    | "-depth" :: rest => .ok (.always true, rest)
    | a :: rest =>
      let valued := ["-name", "-iname", "-path", "-ipath", "-type", "-maxdepth", "-mindepth", "-newer", "-size"]
      if a = "-exec" then
        let words := rest.takeWhile fun w => w != ";" && w != "+"
        if words.length < rest.length then .ok (.carried words, rest.drop (words.length + 1))
        else .error "missing argument to `-exec'"
      else if !valued.contains a then
        .error (if a.toList.head? == some '-' then "unknown predicate `" ++ a ++ "'"
          else "paths must precede expression: `" ++ a ++ "'")
      else
        match rest with
        | [] => .error ("missing argument to `" ++ a ++ "'")
        | v :: rest =>
          let lower := fun (s : String) => String.ofList (s.toList.map Char.toLower)
          if a = "-name" then .ok (.named false false (Finding.patternOf v), rest)
          else if a = "-iname" then .ok (.named true false (Finding.patternOf (lower v)), rest)
          else if a = "-path" then .ok (.named false true (Finding.patternOf v), rest)
          else if a = "-ipath" then .ok (.named true true (Finding.patternOf (lower v)), rest)
          else if a = "-type" then .ok (.kind (v.toList.filter (· != ',')), rest)
          else if a = "-newer" then .ok (.newer v, rest)
          else if a = "-size" then
            match sizeAsked? v with
            | some f => .ok (f, rest)
            | none => .error ("Invalid argument `" ++ v ++ "' to -size")
          else .ok (.always true, rest)

end

/-- Goes through what is at a path and below it. -/
def searchFrom (run : Launcher) (s : Search) (f : Finding) : Nat → Nat → String → Run Unit
  | 0, _, _ => pure ()
  | n + 1, depth, a => do
    let judge : Run Unit := do
      if s.least ≤ depth then
        let _ ← f.holds run a
    let isDir := match ← nodeAt false a with
      | .ok .directory => true
      | _ => false
    if !s.last then judge
    if isDir && depth < s.most then
      for name in ← namesIn a do
        searchFrom run s f n (depth + 1) (inDirectory a name)
    if s.last then judge

def find (run : Launcher) (args : List String) : Run Nat := do
  let isCondition := fun (a : String) => a == "!" || a == "(" || (a.toList.head? == some '-' && a.length > 1)
  let paths := args.takeWhile (!isCondition ·)
  let conditions := args.drop paths.length
  let parsed := if conditions.isEmpty then .ok (Finding.told false, [])
    else findEither (4 * conditions.length + 4) conditions
  match parsed with
  | .error e => fault "find" e 1
  | .ok (_, r :: _) => fault "find" ("paths must precede expression: `" ++ r ++ "'") 1
  | .ok (f, []) =>
    let f := if f.acts then f else .both f (.told false)
    let number := fun (name : String) (d : Nat) =>
      (((conditions.dropWhile (· != name)).drop 1).head?.bind String.toNat?).getD d
    let s : Search := ⟨number "-mindepth" 0, number "-maxdepth" deepest,
      conditions.contains "-depth" || conditions.contains "-delete"⟩
    forEach (fun a => do
      match ← nodeAt false a with
      | .error e => fault "find" (named a ++ ": " ++ reason e) 1
      | .ok _ =>
        searchFrom run s f deepest 0 a
        pure 0) (if paths.isEmpty then ["."] else paths)

end Stepwise.Shell.Tools
