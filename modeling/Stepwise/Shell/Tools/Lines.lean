import Stepwise.Shell.Pattern
import Stepwise.Shell.Tools.Basic

/-!
Programs that work on lines and their parts: `sort`, `uniq`, `comm`, `cut`, `paste` and `tr`.
-/

namespace Stepwise.Shell.Tools

open Run

/-- How lines or keys are compared. -/
structure Comparison where
  numeric : Bool
  folding : Bool
  blanks : Bool
  dictionary : Bool
  reversed : Bool
  version : Bool

/-- The comparison that letters ask for. -/
def Comparison.ofLetters (cs : List Char) : Comparison :=
  ⟨cs.contains 'n' || cs.contains 'g' || cs.contains 'h', cs.contains 'f', cs.contains 'b', cs.contains 'd',
    cs.contains 'r', cs.contains 'V'⟩

/-- A key: from a character of a field to another; an end at character zero is the end of its field. -/
structure Key where
  field : Nat
  start : Nat
  until_ : Option (Nat × Nat)
  comparison : Option Comparison

/-- A place in a line, and the letters after it. -/
def keyPlace (cs : List Char) : Nat × Nat × List Char :=
  let f := cs.takeWhile Char.isDigit
  let rest := cs.drop f.length
  let number := fun (ds : List Char) => (String.ofList ds).toNat?.getD 0
  match rest with
  | '.' :: more =>
    let c := more.takeWhile Char.isDigit
    (number f, number c, more.drop c.length)
  | _ => (number f, 0, rest)

/-- The key that a text describes. -/
def Key.ofText (s : String) : Key :=
  let (front, back) := match Text.cutFirst ',' s.toList with
    | some (a, b) => (a, some b)
    | none => (s.toList, none)
  let (f, c, letters) := keyPlace front
  let end_ := back.map keyPlace
  let all := letters ++ (end_.map fun e => e.2.2).getD []
  ⟨f, max c 1, end_.map fun e => (e.1, e.2.1), if all.isEmpty then none else some (.ofLetters all)⟩

/-- The fields of a line, each with what separates it from the one before. -/
def fieldsOf (separator : Option Char) (l : List Char) : List (List Char) :=
  match separator with
  | some c => Text.splitAt c l
  | none =>
    let step := fun (acc : List (List Char) × List Char) (c : Char) =>
      let isSpace := c == ' ' || c == '\t'
      let inWord := acc.2.any fun d => d != ' ' && d != '\t'
      if isSpace && inWord then (acc.2.reverse :: acc.1, [c]) else (acc.1, c :: acc.2)
    let (done, last) := l.foldl step ([], [])
    (last.reverse :: done).reverse

/-- The part of a line that a key names. -/
def Key.part (k : Key) (separator : Option Char) (l : List Char) : List Char :=
  let fields := fieldsOf separator l
  let joiner := separator.toList
  let blanks := (k.comparison.map (·.blanks)).getD false
  let trim := fun (f : List Char) => if blanks then f.dropWhile isBlank else f
  let first := trim (fields.getD (k.field - 1) [])
  let from_ := first.drop (k.start - 1)
  match k.until_ with
  | none => Text.join joiner (from_ :: fields.drop k.field)
  | some (f, c) =>
    if f < k.field then []
    else if f = k.field then (if c = 0 then from_ else from_.take (c + 1 - k.start))
    else
      let middle := (fields.drop k.field).take (f - 1 - k.field)
      let last := fields.getD (f - 1) []
      let last := if c = 0 then last else (trim last).take c
      if fields.length < f then Text.join joiner (from_ :: fields.drop k.field)
      else Text.join joiner (from_ :: middle ++ [last])

/-- The number that a text begins with, as a fraction of a million millions. -/
def leadingNumber (cs : List Char) : Int :=
  let cs := cs.dropWhile isBlank
  let (negative, cs) := match cs with
    | '-' :: rest => (true, rest)
    | cs => (false, cs)
  let whole := cs.takeWhile Char.isDigit
  let part := match cs.drop whole.length with
    | '.' :: ds => ds.takeWhile Char.isDigit
    | _ => []
  let digits := (part ++ List.replicate 12 '0').take 12
  let n : Nat := (String.ofList (whole ++ digits)).toNat?.getD 0
  if negative then -n else n

/-- Characters in order. -/
def compareChars : List Char → List Char → Ordering
  | [], [] => .eq
  | [], _ => .lt
  | _, [] => .gt
  | a :: as, b :: bs => if a < b then .lt else if b < a then .gt else compareChars as bs

/-- A text in runs of digits and runs of other characters. -/
def runsOf (cs : List Char) : List (Bool × List Char) :=
  cs.foldr (fun c runs => match runs with
    | (isNumber, r) :: rest => if c.isDigit = isNumber then (isNumber, c :: r) :: rest
      else (c.isDigit, [c]) :: runs
    | [] => [(c.isDigit, [c])]) []

/-- Texts in order, the numbers in them by their values. -/
def compareVersions : List (Bool × List Char) → List (Bool × List Char) → Ordering
  | [], [] => .eq
  | [], _ => .lt
  | _, [] => .gt
  | (true, a) :: as, (true, b) :: bs =>
    match compare ((String.ofList a).toNat?.getD 0) ((String.ofList b).toNat?.getD 0) with
    | .eq => compareVersions as bs
    | o => o
  | (_, a) :: as, (_, b) :: bs =>
    match compareChars a b with
    | .eq => compareVersions as bs
    | o => o

/-- The order of two texts in a comparison. -/
def Comparison.order (c : Comparison) (a b : List Char) : Ordering :=
  let shape := fun (cs : List Char) =>
    let cs := if c.blanks then cs.dropWhile isBlank else cs
    let cs := if c.dictionary then cs.filter fun x => x.isAlphanum || isBlank x else cs
    if c.folding then cs.map Char.toUpper else cs
  let o := if c.numeric then compare (leadingNumber a) (leadingNumber b)
    else if c.version then compareVersions (runsOf a) (runsOf b)
    else compareChars (shape a) (shape b)
  if c.reversed then o.swap else o

/-- The order of two lines by keys. -/
def orderByKeys (general : Comparison) (separator : Option Char) (keys : List Key) (a b : List Char) :
    Ordering :=
  if keys.isEmpty then general.order a b
  else keys.foldl (fun (o : Ordering) k =>
    if o = .eq then (k.comparison.getD general).order (k.part separator a) (k.part separator b) else o)
    Ordering.eq

/-- Neighbours that are the same, once. -/
def once (same : List Char → List Char → Bool) (ls : List (List Char)) : List (List Char) :=
  (ls.foldl (fun (kept : List (List Char)) l => match kept with
    | k :: _ => if same k l then kept else l :: kept
    | [] => [l]) []).reverse

def sort (args : List String) : Run Nat :=
  let known := lettered "nrufbdsgVhcCmMRizk:t:o:S:T:".toList ++
    worded [("numeric-sort", 'n', false), ("reverse", 'r', false), ("unique", 'u', false),
      ("ignore-case", 'f', false), ("key", 'k', true), ("field-separator", 't', true), ("output", 'o', true),
      ("check", 'c', false), ("stable", 's', false), ("version-sort", 'V', false)]
  withOptions "sort" 2 known false args fun p => do
    let files := if p.operands.isEmpty then ["-"] else p.operands
    let failed ← files.findM? fun a => do
      if a = "-" then pure false
      else match ← contents a with
        | .ok _ => pure false
        | .error _ => pure true
    match failed with
    | some a =>
      match ← contents a with
      | .error e =>
        let verb := if reason e = Errno.isDirectory.text then "read failed" else "cannot read"
        fault "sort" (verb ++ ": " ++ shown a ++ ": " ++ reason e) 2
      | .ok _ => pure 2
    | none =>
      let (texts, _) ← gather "sort" p.operands
      let ls := texts.flatMap linesOf
      let general := Comparison.ofLetters (p.options.map (·.1))
      let keys := (p.options.filter (·.1 == 'k')).map fun o => Key.ofText o.2
      let separator := (p.value? 't').bind fun s => if s = "\\0" then some '\x00' else s.toList.head?
      let byKeys := orderByKeys general separator keys
      let whole := fun (a b : List Char) => if general.reversed then compareChars b a else compareChars a b
      let order := fun (a b : List Char) =>
        let o := byKeys a b
        if o = Ordering.eq && !(p.has 's' || p.has 'u') then whole a b else o
      if p.has 'c' || p.has 'C' then
        let bad := (ls.zip (ls.drop 1)).findIdx? fun (a, b) =>
          order a b == .gt || (p.has 'u' && order a b == .eq)
        match bad with
        | none => pure 0
        | some i =>
          if p.has 'C' then pure 1
          else fault "sort" (files.headD "-" ++ ":" ++ toString (i + 2) ++ ": disorder: " ++
            String.ofList (ls.getD (i + 1) [])) 1
      else
        let sorted := ls.mergeSort fun a b => order a b != .gt
        let sorted := if p.has 'u' then once (fun a b => byKeys a b == .eq) sorted else sorted
        match p.value? 'o' with
        | none =>
          out (unlines sorted)
          pure 0
        | some f =>
          let path ← locate f
          match ← store path fun _ => (unlines sorted).map fun c => UInt8.ofNat c.toNat with
          | none => pure 0
          | some e => fault "sort" ("open failed: " ++ shown f ++ ": " ++ reason e) 2

/-- Lines in groups of neighbours that are the same. -/
def groups (same : List Char → List Char → Bool) (ls : List (List Char)) : List (List Char × Nat) :=
  (ls.foldl (fun (acc : List (List Char × Nat)) l => match acc with
    | (k, n) :: rest => if same k l then (k, n + 1) :: rest else (l, 1) :: acc
    | [] => [(l, 1)]) []).reverse

def uniq (args : List String) : Run Nat :=
  let known := lettered "cdDuizf:s:w:".toList ++
    worded [("count", 'c', false), ("repeated", 'd', false), ("unique", 'u', false),
      ("ignore-case", 'i', false), ("skip-fields", 'f', true), ("skip-chars", 's', true),
      ("check-chars", 'w', true)]
  withOptions "uniq" 1 known false args fun p => do
    let number := fun (c : Char) => (p.value? c).bind String.toNat?
    let key := fun (l : List Char) =>
      let l := (List.range ((number 'f').getD 0)).foldl
        (fun l _ => (l.dropWhile isBlank).dropWhile (!isBlank ·)) l
      let l := l.drop ((number 's').getD 0)
      let l := ((number 'w').map fun n => l.take n).getD l
      if p.has 'i' then l.map Char.toLower else l
    let input := p.operands.headD "-"
    match ← contents input with
    | .error e => fault "uniq" (shown input ++ ": " ++ reason e) 1
    | .ok cs =>
      let kept := (groups (fun a b => key a == key b) (linesOf cs)).filter fun g =>
        (!p.has 'd' || 1 < g.2) && (!p.has 'u' || g.2 = 1)
      let text := unlines (kept.map fun g =>
        if p.has 'c' then (aligned 7 g.2).toList ++ ' ' :: g.1 else g.1)
      match p.operands[1]? with
      | some f =>
        let path ← locate f
        match ← store path fun _ => text.map fun c => UInt8.ofNat c.toNat with
        | none => pure 0
        | some e => fault "uniq" (shown f ++ ": " ++ reason e) 1
      | none =>
        out text
        pure 0

/-- Lines that only one of two sorted texts has, and lines that both have, in order. -/
def merged : Nat → List (List Char) → List (List Char) → List (Nat × List Char)
  | 0, _, _ => []
  | _, [], bs => bs.map fun l => (2, l)
  | _, as, [] => as.map fun l => (1, l)
  | n + 1, a :: as, b :: bs =>
    match compareChars a b with
    | .lt => (1, a) :: merged n as (b :: bs)
    | .gt => (2, b) :: merged n (a :: as) bs
    | .eq => (3, a) :: merged n as bs

def comm (args : List String) : Run Nat :=
  withOptions "comm" 1 (lettered "123".toList) false args fun p => do
    match p.operands with
    | [a, b] =>
      match ← contents a, ← contents b with
      | .ok x, .ok y =>
        let xs := linesOf x
        let ys := linesOf y
        let dropped := fun (n : Nat) => p.has (Char.ofNat (48 + n))
        (merged (xs.length + ys.length) xs ys).forM fun (n, l) => do
          if !dropped n then
            let before := ([1, 2].filter fun k => decide (k < n) && !dropped k).length
            out (List.replicate before '\t' ++ l ++ ['\n'])
        pure 0
      | .error e, _ => fault "comm" (shown a ++ ": " ++ reason e) 1
      | _, .error e => fault "comm" (shown b ++ ": " ++ reason e) 1
    | [] => fault "comm" ("missing operand" ++ hint "comm") 1
    | [a] => fault "comm" ("missing operand after " ++ named a ++ hint "comm") 1
    | _ :: _ :: c :: _ => fault "comm" ("extra operand " ++ named c ++ hint "comm") 1

/-- The ranges of a list of positions, the last end perhaps being open. -/
def rangesOf? (s : String) : Option (List (Nat × Option Nat)) :=
  ((Text.splitAt ',' s.toList)).mapM fun part =>
    match Text.cutFirst '-' part with
    | none => (String.ofList part).toNat?.bind fun n => if n = 0 then none else some (n, some n)
    | some (a, b) =>
      let low := if a.isEmpty then some 1 else (String.ofList a).toNat?
      if a.isEmpty && b.isEmpty then none
      else low.bind fun low =>
        if low = 0 then none
        else if b.isEmpty then some (low, none)
        else (String.ofList b).toNat?.bind fun high => if high < low then none else some (low, some high)

/-- Whether a position is in one of some ranges. -/
def inRanges (rs : List (Nat × Option Nat)) (n : Nat) : Bool :=
  rs.any fun r => r.1 ≤ n && (r.2.elim true fun h => decide (n ≤ h))

def cut (args : List String) : Run Nat :=
  let known := lettered "b:c:f:d:snz".toList ++
    [⟨'b', "bytes", true, false⟩, ⟨'c', "characters", true, false⟩, ⟨'f', "fields", true, false⟩,
      ⟨'d', "delimiter", true, false⟩, ⟨'s', "only-delimited", false, false⟩, ⟨'C', "complement", false, false⟩,
      ⟨'o', "output-delimiter", true, false⟩]
  withOptions "cut" 1 known false args fun p => do
    let lists := p.options.filter fun o => "bcf".toList.contains o.1
    match lists with
    | [] => fault "cut" ("you must specify a list of bytes, characters, or fields" ++ hint "cut") 1
    | _ :: _ :: _ => fault "cut" ("only one list may be specified" ++ hint "cut") 1
    | [(kind, list)] =>
      let byField := kind == 'f'
      if !byField && p.has 'd' then
        fault "cut" ("an input delimiter may be specified only when operating on fields" ++ hint "cut") 1
      else if byField && ((p.value? 'd').getD "\t").length ≠ 1 && p.value? 'd' ≠ some "" then
        fault "cut" ("the delimiter must be a single character" ++ hint "cut") 1
      else
        match rangesOf? list with
        | none =>
          let position := if byField then "field" else "byte/character"
          let number := Text.splitAt ',' list.toList
          let isZero := number.any fun x => x == ['0'] || ['0', '-'].isPrefixOf x
          let isDecreasing := list.toList.all fun c => c.isDigit || c == '-' || c == ','
          if isZero then
            fault "cut" ((if byField then "fields" else "byte/character positions") ++ " are numbered from 1" ++
              hint "cut") 1
          else if list.toList.isEmpty || list == "-" then
            fault "cut" (if list == "-" then "invalid range with no endpoint: -" ++ hint "cut"
              else (if byField then "fields" else "byte/character positions") ++ " are numbered from 1" ++ hint "cut") 1
          else if isDecreasing then fault "cut" ("invalid decreasing range" ++ hint "cut") 1
          else
            let bad := list.toList.dropWhile fun c => c.isDigit || c == ',' || c == '-'
            fault "cut" ("invalid " ++ position ++ " value " ++ named (String.ofList bad) ++ hint "cut") 1
        | some rs =>
          let wanted := fun (n : Nat) => inRanges rs n != p.has 'C'
          let pick := fun {α : Type} (xs : List α) => (xs.zipIdx 1).filterMap fun (x, n) =>
            if wanted n then some x else none
          let delimiter := (((p.value? 'd').getD "\t").toList.head?).getD '\x00'
          let joiner := ((p.value? 'o').map String.toList).getD (if byField then [delimiter] else [])
          eachInput "cut" (fun _ cs => do
            let ls := (linesOf cs).filterMap fun l =>
              if byField then
                if l.contains delimiter then some (Text.join joiner (pick (Text.splitAt delimiter l)))
                else if p.has 's' then none else some l
              else some (pick l)
            out (unlines ls)) p.operands

/-- The characters of a list of delimiters, escapes being resolved. -/
def delimiters : List Char → List (List Char)
  | '\\' :: c :: rest =>
    (if c = 'n' then ['\n'] else if c = 't' then ['\t'] else if c = '0' then [] else [c]) :: delimiters rest
  | c :: rest => [c] :: delimiters rest
  | [] => []

/-- Texts joined with delimiters that are used in turn. -/
def joinTurn (ds : List (List Char)) (parts : List (List Char)) : List Char :=
  (parts.zipIdx.flatMap fun (p, i) => (if i = 0 then [] else ds.getD ((i - 1) % ds.length) []) ++ p)

def paste (args : List String) : Run Nat :=
  let known := lettered "d:sz".toList ++ worded [("delimiters", 'd', true), ("serial", 's', false)]
  withOptions "paste" 1 known false args fun p => do
    let ds := delimiters ((p.value? 'd').getD "\t").toList
    let ds := if ds.isEmpty then [[]] else ds
    let files := if p.operands.isEmpty then ["-"] else p.operands
    let dashes := files.countP (· == "-")
    let input ← if 0 < dashes then contents "-" else pure (.ok [])
    let shared := linesOf (input.toOption.getD [])
    let (columns, _) ← files.foldlM (fun (columns, k) a => do
      if a = "-" then
        let own := if p.has 's' then (if k = 0 then shared else [])
          else (shared.zipIdx.filter fun x => x.2 % dashes == k).map (·.1)
        pure (columns ++ [.ok own], k + 1)
      else
        match ← contents a with
        | .ok cs => pure (columns ++ [.ok (linesOf cs)], k)
        | .error e => pure (columns ++ [.error (shown a ++ ": " ++ reason e)], k)) ([], 0)
    let failure := columns.findSome? fun
      | Except.error e => some e
      | .ok _ => none
    match failure with
    | some e => fault "paste" e 1
    | none =>
      let columns := columns.filterMap Except.toOption
      if p.has 's' then out (unlines (columns.map (joinTurn ds)))
      else
        let height := (columns.map List.length).foldl max 0
        out (unlines ((List.range height).map fun i => joinTurn ds (columns.map fun c => c.getD i [])))
      pure 0

/-- The characters from one to another. -/
def charRange (a b : Char) : List Char :=
  (List.range (b.toNat + 1 - a.toNat)).map fun k => Char.ofNat (a.toNat + k)

/-- A character of a set, escapes being resolved, and what follows it. -/
def setChar : List Char → Option (Char × List Char)
  | [] => none
  | '\\' :: rest =>
    match escape? rest with
    | some (c, after) => some (c, after)
    | none =>
      match rest with
      | c :: after => some (c, after)
      | [] => some ('\\', [])
  | c :: rest => some (c, rest)

/-- The characters of a set, with ranges, kinds and escapes. -/
def setOf : Nat → List Char → List Char
  | 0, _ => []
  | _, [] => []
  | n + 1, '[' :: ':' :: rest =>
    let name := rest.takeWhile Char.isAlpha
    match rest.drop name.length with
    | ':' :: ']' :: after =>
      ((List.range 256).map Char.ofNat).filter (isOfKind (String.ofList name)) ++ setOf n after
    | _ => '[' :: setOf n (':' :: rest)
  | n + 1, '[' :: c :: '*' :: rest =>
    let ds := rest.takeWhile Char.isDigit
    match rest.drop ds.length with
    | ']' :: after => List.replicate ((String.ofList ds).toNat?.getD 256) c ++ setOf n after
    | _ => '[' :: setOf n (c :: '*' :: rest)
  | n + 1, cs =>
    match setChar cs with
    | none => []
    | some (a, rest) =>
      match rest with
      | '-' :: more =>
        match setChar more with
        | some (b, after) => if a ≤ b then charRange a b ++ setOf n after else a :: setOf n rest
        | none => a :: setOf n rest
      | _ => a :: setOf n rest

/-- A range in a set whose ends are in the wrong order. -/
def reversed? : Nat → List Char → Option (Char × Char)
  | 0, _ => none
  | n + 1, cs =>
    match setChar cs with
    | none => none
    | some (a, '-' :: more) =>
      match setChar more with
      | some (b, after) => if a ≤ b then reversed? n after else some (a, b)
      | none => none
    | some (_, rest) => reversed? n rest

/-- Runs of one character of a set, once. -/
def squeezed (set cs : List Char) : List Char :=
  (cs.foldl (fun (acc : List Char) c =>
    if acc.head? == some c && set.contains c then acc else c :: acc) []).reverse

def tr (args : List String) : Run Nat :=
  let known := lettered "cCdst".toList ++
    worded [("complement", 'c', false), ("delete", 'd', false), ("squeeze-repeats", 's', false),
      ("truncate-set1", 't', false)]
  withOptions "tr" 1 known true args fun p => do
    let complement := p.has 'c' || p.has 'C'
    let expand := fun (s : String) => setOf (s.length + 1) s.toList
    let needed := if p.has 'd' then (if p.has 's' then 2 else 1) else if p.has 's' then 1 else 2
    match p.operands with
    | [] => fault "tr" ("missing operand" ++ hint "tr") 1
    | a :: rest =>
      if rest.length + 1 < needed then
        fault "tr" ("missing operand after " ++ named a ++ "\nTwo strings must be given when " ++
          (if p.has 'd' then "both deleting and squeezing repeats." else "translating.") ++ hint "tr") 1
      else if 2 < p.operands.length || (p.has 'd' && !p.has 's' && 1 < p.operands.length) then
        fault "tr" ("extra operand " ++ named (p.operands.getD needed "") ++
          (if p.has 'd' && needed = 1 then "\nOnly one string may be given when deleting without squeezing repeats." else "") ++
          hint "tr") 1
      else if let some (x, y) := p.operands.findSome? fun s => reversed? (s.length + 1) s.toList then
        fault "tr" ("range-endpoints of '" ++ String.ofList [x, '-', y] ++
          "' are in reverse collating sequence order") 1
      else
        let base := expand a
        let first := if complement then ((List.range 256).map Char.ofNat).filter fun c => !base.contains c else base
        let second := rest.head?.map expand
        let cs := ((← readAll).toOption.getD []).map fun b => Char.ofNat b.toNat
        let mapped := match second with
          | some new =>
            if p.has 'd' then cs.filter fun c => !first.contains c
            else
              let old := if p.has 't' then first.take new.length else first
              let table := old.zipIdx
              cs.map fun c =>
                match table.reverse.find? (·.1 == c) with
                | some (_, i) => new.getD i (new.getLastD c)
                | none => c
          | none => if p.has 'd' then cs.filter fun c => !first.contains c else cs
        out (if p.has 's' then squeezed (second.getD first) mapped else mapped)
        pure 0

end Stepwise.Shell.Tools
