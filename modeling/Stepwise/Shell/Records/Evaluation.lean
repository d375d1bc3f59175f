import Stepwise.Shell.Records.Format
import Stepwise.Shell.Records.Input

/-!
Carrying out scripts that work on records.
-/

namespace Stepwise.Shell.Records

namespace Work

/-- The texts of keys as one key, and the whole number that a single key is. -/
def keyOf (vs : List Datum) : Work (Option Int × String) := do
  match vs with
  | [.number x] =>
    match x.toInt? with
    | some i =>
      if -9223372036854775808 ≤ i ∧ i ≤ 9223372036854775808 then
        return (if -2147483648 ≤ i ∧ i ≤ 2147483647 then some i else none, ← textOf (.number x))
      else return (none, inFormat (← setting "CONVFMT") x)
    | none => return (none, ← textOf (.number x))
  | vs => return (none, Text.joinText (← setting "SUBSEP") (← vs.mapM textOf))

/-- The value at a key of a table, which is made if there is none. -/
def item (table : String) (vs : List Datum) : Work Datum := do
  let i ← place table
  let (number?, key) ← keyOf vs
  match ((← get).tables.getD i .empty).find? key with
  | some v =>
    change i (·.touch number? key)
    return v
  | none =>
    change i (·.insert number? key .unset)
    return .unset

/-- Sets the value at a key of a table. -/
def setItem (table : String) (vs : List Datum) (v : Datum) : Work Unit := do
  let i ← place table
  let (number?, key) ← keyOf vs
  change i (·.insert number? key v)

/-- Whether a regular expression matches anywhere in a text. -/
def isIn (r : Regex) (s : String) : Bool := (r.find? (.of s.toList false) 0).isSome

/-- A replacement with what was matched in it. -/
def replaced (matched : List Char) : Nat → List Char → List Char
  | 0, cs => cs
  | _, [] => []
  | n + 1, '&' :: rest => matched ++ replaced matched n rest
  | n + 1, '\\' :: rest =>
    let run := ('\\' :: rest).takeWhile (· == '\\')
    match ('\\' :: rest).drop run.length with
    | '&' :: after =>
      List.replicate (run.length / 2) '\\' ++
        (if run.length % 2 = 1 then ['&'] else matched) ++ replaced matched n after
    | after => run ++ replaced matched n after
  | n + 1, c :: rest => c :: replaced matched n rest

/-- A text in which matches are replaced, all of them or the first, and how many there were; `last` is where
the match before ended. -/
def substituted (r : Regex) (t : Regex.Subject) (new : List Char) (all : Bool) :
    Nat → Nat → Option Nat → List Char × Nat
  | 0, i, _ => (t.slice i t.text.size, 0)
  | n + 1, i, last =>
    match r.find? t i with
    | none => (t.slice i t.text.size, 0)
    | some (j, e) =>
      if j = e.position ∧ last = some j then
        if j < t.text.size then
          let (more, k) := substituted r t new all n (j + 1) none
          (t.slice i (j + 1) ++ more, k)
        else (t.slice i t.text.size, 0)
      else
        let text := t.slice i j ++ replaced (t.slice j e.position) (new.length + 1) new
        if !all then (text ++ t.slice e.position t.text.size, 1)
        else if j = e.position then
          if j < t.text.size then
            let (more, k) := substituted r t new all n (j + 1) none
            (text ++ t.slice j (j + 1) ++ more, k + 1)
          else (text, 1)
        else
          let (more, k) := substituted r t new all n e.position (some e.position)
          (text ++ more, k + 1)

/-- The part of a text from a place on, of some length. -/
def part (s : String) (first : Double) (length : Option Double) : String :=
  let whole : Double → Int := fun x => match x with
    | .nan => 0
    | .infinite s => if s then -2147483647 else 2147483647
    | x => (x.truncated.toInt?).getD 0
  let b := whole first
  let cs := s.toList
  let n : Int := (length.map whole).getD cs.length
  let n := if b < 0 then n - b else n
  String.ofList ((cs.drop (b - 1).toNat).take n.toNat)

/-- The operation on two numbers. -/
def calculate (op : Arith) (x y : Double) : Double :=
  match op with
  | .add => x.add y
  | .sub => x.sub y
  | .mul => x.mul y
  | .div => x.div y
  | .rem => x.rem y
  | .pow => Double.byMachine₂ Float.pow x y

/-- Whether a comparison holds for an order. -/
def holds (r : Relation) (o : Ordering) : Bool :=
  match r with
  | .less => o == .lt
  | .atMost => o != .gt
  | .equal => o == .eq
  | .unequal => o != .eq
  | .more => o == .gt
  | .atLeast => o != .lt

/-- What a function of the language makes of numbers. -/
def computed? (name : String) (x : Double) : Option Double :=
  if name = "sin" then some (x.byMachine Float.sin)
  else if name = "cos" then some (x.byMachine Float.cos)
  else if name = "exp" then some (x.byMachine Float.exp)
  else if name = "log" then some (x.byMachine Float.log)
  else if name = "sqrt" then some (x.byMachine Float.sqrt)
  else if name = "int" then some x.truncated
  else none

/-- A format with values, as a text. What was written before a flaw shows is passed on. -/
def formatted (name format : String) (vs : List Datum) (pass : String → Work Unit) : Work String := do
  let w := written (← setting "CONVFMT") (format.length + 1) 0 format.toList vs []
  match w.flaw? with
  | none => return String.ofList w.text.reverse
  | some flaw =>
    pass (String.ofList w.text.reverse)
    broken (flaw ++ name ++ "(\"" ++ format ++ "\")")

/-- A value as it is shown. -/
def shownText (v : Datum) : Work String := do
  match v with
  | .number x => return numberText (← setting "OFMT") x
  | v => textOf v

/-- The present time in seconds. -/
def seconds : Run Int := do return (← Run.now) / 1000000

mutual

/-- The value of an expression. -/
def eval (run : Launcher) (fs : List Function) : Nat → Expr → Work Datum
  | 0, _ => fail "function call nesting too deep"
  | n + 1, e => do
    match e with
    | .number x => return .number x
    | .text s => return .text s
    | .pattern r =>
      join
      return .ofBool (isIn r (← get).record)
    | .named x => value x
    | .item t keys => item t (← evals run fs n keys.toList)
    | .field e => field (← index run fs n e)
    | .inner e => eval run fs n e
    | .assign op target e =>
      match op with
      | none =>
        match target with
        | .named x =>
          let v ← eval run fs n e
          setValue x v
          return v
        | .item t keys =>
          let vs ← evals run fs n keys.toList
          let v ← eval run fs n e
          setItem t vs v
          return v
        | .field i =>
          let i ← index run fs n i
          let v ← eval run fs n e
          setField i v
          return v
        | _ => fail "syntax error"
      | some op =>
        update run fs n target fun old => do
          let v := Datum.number (calculate op old.toNumber (← eval run fs n e).toNumber)
          return (v, v)
    | .step before up target =>
      update run fs n target fun old => do
        let x := old.toNumber
        let v := Datum.number (x.add (.ofInt (if up then 1 else -1)))
        return (v, if before then v else .number x)
    | .choice c a b => if (← eval run fs n c).isTrue then eval run fs n a else eval run fs n b
    | .both a b => if (← eval run fs n a).isTrue then return .ofBool (← eval run fs n b).isTrue else return .ofBool false
    | .either a b =>
      if (← eval run fs n a).isTrue then return .ofBool true else return .ofBool (← eval run fs n b).isTrue
    | .not a => return .ofBool !(← eval run fs n a).isTrue
    | .sign minus a =>
      let x := (← eval run fs n a).toNumber
      return .number (if minus then x.neg else x)
    | .within keys t =>
      let vs ← evals run fs n keys.toList
      let i ← place t
      let (_, key) ← keyOf vs
      return .ofBool (((← get).tables.getD i .empty).find? key).isSome
    | .fits wanted a b =>
      let s ← textOf (← eval run fs n a)
      let r ← regex run fs n b
      return .ofBool (isIn r s == wanted)
    | .relation r a b =>
      let x ← eval run fs n a
      let y ← eval run fs n b
      return .ofBool (holds r (x.order (← setting "CONVFMT") y))
    | .join a b =>
      let x ← textOf (← eval run fs n a)
      let y ← textOf (← eval run fs n b)
      return .text (x ++ y)
    | .arith op a b =>
      let x ← eval run fs n a
      let y ← eval run fs n b
      return .number (calculate op x.toNumber y.toNumber)
    | .next target =>
      match ← nextRecord 100000 with
      | none => return .ofNat 0
      | some record =>
        match target with
        | none => setRecord record
        | some target => store run fs n target (.entry record)
        return .ofNat 1
    | .nextOf command source target =>
      let name ← textOf (← eval run fs n source)
      match ← recordOf run command name with
      | .error _ => return .number (.ofInt (-1))
      | .ok none => return .ofNat 0
      | .ok (some record) =>
        match target with
        | none => setRecord record
        | some target => store run fs n target (.entry record)
        return .ofNat 1
    | .call name args =>
      match fs.find? (·.name == name) with
      | none => fail ("function " ++ name ++ " never defined")
      | some f =>
        let frame ← bind run fs n f f.parameters args.toList ⟨[], []⟩
        let before := (← get).frame
        modify fun s => { s with frame := some frame }
        let v ← tryCatch (do
          exec run fs n f.body
          return Datum.unset) fun stop =>
            match stop with
            | .giveBack v => pure v
            | stop => throw stop
        modify fun s => { s with frame := before }
        return v
    | .apply name args => apply run fs n name args.toList

/-- The values of expressions. -/
def evals (run : Launcher) (fs : List Function) : Nat → List Expr → Work (List Datum)
  | 0, _ => return []
  | _, [] => return []
  | n + 1, e :: es => do
    let v ← eval run fs n e
    return v :: (← evals run fs n es)

/-- The number of a field. -/
def index (run : Launcher) (fs : List Function) : Nat → Expr → Work Nat
  | 0, _ => return 0
  | n + 1, e => do
    match ((← eval run fs n e).toNumber.truncated.toInt?) with
    | some i => if i < 0 then broken ("negative field index $" ++ toString i) else return i.toNat
    | none => return 0

/-- The variables of a function that is called, arguments being given by value or, if they are tables, by
name. -/
def bind (run : Launcher) (fs : List Function) : Nat → Function → List String → List Expr → Frame → Work Frame
  | 0, _, _, _, frame => return frame
  | _, _, [], _, frame => return frame
  | n + 1, f, p :: ps, args, frame => do
    let (arg?, rest) := match args with
      | a :: rest => (some a, rest)
      | [] => (none, [])
    if f.tables.contains p then
      let i ← match arg? with
        | some (.named x) => place x
        | _ => newPlace
      bind run fs n f ps rest { frame with tables := (p, i) :: frame.tables }
    else
      let isPlace ← match arg? with
        | some (.named x) => isTable x
        | _ => pure false
      match arg? with
      | some (.named x) =>
        if isPlace then bind run fs n f ps rest { frame with tables := (p, ← place x) :: frame.tables }
        else bind run fs n f ps rest { frame with values := (p, ← value x) :: frame.values }
      | some e => bind run fs n f ps rest { frame with values := (p, ← eval run fs n e) :: frame.values }
      | none => bind run fs n f ps rest { frame with values := (p, .unset) :: frame.values }

/-- Assigns a value. -/
def store (run : Launcher) (fs : List Function) : Nat → Expr → Datum → Work Unit
  | 0, _, _ => return
  | n + 1, target, v => do
    match target with
    | .named x => setValue x v
    | .item t keys => setItem t (← evals run fs n keys.toList) v
    | .field e => setField (← index run fs n e) v
    | _ => return

/-- Replaces a value by one that is made of it; gives what is made for it. -/
def update (run : Launcher) (fs : List Function) : Nat → Expr → (Datum → Work (Datum × Datum)) → Work Datum
  | 0, _, _ => return .unset
  | n + 1, target, f => do
    match target with
    | .named x =>
      let (new, result) ← f (← value x)
      setValue x new
      return result
    | .item t keys =>
      let vs ← evals run fs n keys.toList
      let (new, result) ← f (← item t vs)
      setItem t vs new
      return result
    | .field e =>
      let i ← index run fs n e
      let (new, result) ← f (← field i)
      setField i new
      return result
    | _ => return .unset

/-- The regular expression that an expression is: a pattern itself, or a text that is one. -/
def regex (run : Launcher) (fs : List Function) : Nat → Expr → Work Regex
  | 0, _ => return .nothing
  | n + 1, e => do
    match e with
    | .pattern r => return r
    | .inner e => regex run fs n e
    | e =>
      let text ← textOf (← eval run fs n e)
      match Pattern.read text.toList with
      | .ok r => return r
      | .error flaw =>
        let complaint := "regular expression compile failed (" ++ flaw.message ++ ")\n" ++ text
        match e with
        | .text _ => fail ("line 1: " ++ complaint)
        | _ => broken complaint

/-- What a function of the language makes of its arguments. -/
def apply (run : Launcher) (fs : List Function) : Nat → String → List Expr → Work Datum
  | 0, _, _ => return .unset
  | n + 1, name, args => do
    let text := fun (e : Expr) => do textOf (← eval run fs n e)
    match name, args with
    | "length", [] =>
      join
      return .ofNat (← get).record.length
    | "length", [.named x] =>
      if ← isTable x then return .ofNat ((← get).tables.getD (← place x) .empty).size
      else return .ofNat (← text (.named x)).length
    | "length", e :: _ => return .ofNat (← text e).length
    | "substr", e :: b :: rest =>
      let s ← text e
      let first := (← eval run fs n b).toNumber
      match rest with
      | [] => return .text (part s first none)
      | l :: _ => return .text (part s first (some (← eval run fs n l).toNumber))
    | "index", [a, b] =>
      let s := (← text a).toList
      let t := (← text b).toList
      let found := if t.isEmpty then some 0
        else (List.range (s.length + 1 - t.length)).find? fun i => t.isPrefixOf (s.drop i)
      return .ofNat ((found.map (· + 1)).getD 0)
    | "split", e :: t :: rest =>
      let s ← text e
      let parts ← match rest with
        | [] => partsOf (← setting "FS") s
        | .pattern r :: _ =>
          if s.isEmpty then pure [] else pure (piecesBetween r (.of s.toList false) (s.length + 1) 0)
        | separator :: _ => partsOf (← text separator) s
      match t with
      | .named t =>
        let i ← place t
        change i fun _ => .ofList (parts.map Datum.entry)
        return .ofNat parts.length
      | _ => fail "type error in call to split"
    | "match", [a, b] =>
      let s ← text a
      let r ← regex run fs n b
      let (start, length) := match r.find? (.of s.toList false) 0 with
        | some (j, e) => (((j + 1 : Nat) : Int), ((e.position - j : Nat) : Int))
        | none => (0, -1)
      setValue "RSTART" (.number (.ofInt start))
      setValue "RLENGTH" (.number (.ofInt length))
      return .number (.ofInt start)
    | "sprintf", format :: rest =>
      let vs ← evals run fs n (format :: rest)
      return .text (← formatted "sprintf" (← textOf (vs.headD .unset)) (vs.drop 1) fun _ => pure ())
    | "tolower", [e] => return .text (String.ofList ((← text e).toList.map Char.toLower))
    | "toupper", [e] => return .text (String.ofList ((← text e).toList.map Char.toUpper))
    | "atan2", [a, b] =>
      let y ← eval run fs n a
      let x ← eval run fs n b
      return .number (Double.byMachine₂ Float.atan2 y.toNumber x.toNumber)
    | "system", [e] =>
      let command ← text e
      flushAll run
      return .ofNat (← shell (carry run command))
    | "close", [e] => return .number (.ofInt (← close run (← text e)))
    | "fflush", _ =>
      flushAll run
      return .ofNat 0
    | "systime", _ => return .number (.ofInt (← shell seconds))
    | "rand", _ =>
      let s ← get
      let next := (s.seed * 6364136223846793005 + 1442695040888963407) % Nat.pow 2 64
      set { s with seed := next }
      return .number (.ofFraction false (next / Nat.pow 2 11) (Nat.pow 2 53))
    | "srand", args =>
      let s ← get
      let seed ← match args with
        | [] => shell seconds
        | e :: _ => do pure ((← eval run fs n e).toNumber.truncated.toInt?.getD 0)
      modify fun s => { s with seed := seed.toNat }
      return .ofNat s.seed
    | name, [e] =>
      if name = "sub" ∨ name = "gsub" then return .unset
      else
        match computed? name (← eval run fs n e).toNumber with
        | some x => return .number x
        | none => return .unset
    | name, e :: new :: rest =>
      if name = "sub" ∨ name = "gsub" then
        let r ← regex run fs n e
        let new ← text new
        let target := rest.headD (.field (.number (.zero false)))
        let old ← text target
        let (changed, k) := substituted r (.of old.toList false) new.toList (name == "gsub") (old.length + 2) 0 none
        if 0 < k then store run fs n target (.text (String.ofList changed))
        return .ofNat k
      else return .unset
    | _, _ => return .unset

/-- Carries out a statement. -/
def exec (run : Launcher) (fs : List Function) : Nat → Statement → Work Unit
  | 0, _ => fail "function call nesting too deep"
  | n + 1, s => do
    match s with
    | .nothing => return
    | .expr e =>
      let _ ← eval run fs n e
    | .print es outlet =>
      let text ← match es with
        | [] => do
          join
          pure (← get).record
        | es => do
          let vs ← evals run fs n es
          pure (Text.joinText (← setting "OFS") (← vs.mapM shownText))
      show_ run fs n outlet (text ++ (← setting "ORS"))
    | .printf es outlet =>
      let vs ← evals run fs n es
      let format ← textOf (vs.headD .unset)
      let text ← formatted "printf" format (vs.drop 1) (show_ run fs n outlet)
      show_ run fs n outlet text
    | .block s t =>
      exec run fs n s
      exec run fs n t
    | .choice c yes no => if (← eval run fs n c).isTrue then exec run fs n yes else exec run fs n no
    | .loop c body =>
      repeating (do
        if (← eval run fs n c).isTrue then round (exec run fs n body) else return false) 100000000
    | .loopOnce body c =>
      repeating (do
        if ← round (exec run fs n body) then return (← eval run fs n c).isTrue else return false) 100000000
    | .forAll first c after body =>
      exec run fs n first
      repeating (do
        if (← eval run fs n c).isTrue then
          if ← round (exec run fs n body) then
            exec run fs n after
            return true
          else return false
        else return false) 100000000
    | .forKeys x t body =>
      let i ← place t
      change i Table.letter
      let keys := ((← get).tables.getD i .empty).keys
      let _ ← keys.foldlM (fun (going : Bool) k => do
        if going then
          setValue x (.text k)
          round (exec run fs n body)
        else return false) true
    | .leave => throw .leave
    | .again => throw .again
    | .next => throw .next
    | .nextFile => throw .nextFile
    | .exit e =>
      match e with
      | some e =>
        let x := (← eval run fs n e).toNumber
        modify fun s => { s with status := ((x.truncated.toInt?.getD 0) % 256).toNat }
      | none => pure ()
      throw .exit
    | .giveBack e =>
      match e with
      | some e => throw (.giveBack (← eval run fs n e))
      | none => throw (.giveBack .unset)
    | .delete t keys =>
      let i ← place t
      match keys with
      | none => change i fun _ => .empty
      | some keys =>
        let (_, key) ← keyOf (← evals run fs n keys)
        change i (·.erase key)

/-- Shows a text where it belongs. -/
def show_ (run : Launcher) (fs : List Function) : Nat → Option (Outlet × Expr) → String → Work Unit
  | 0, _, _ => return
  | n + 1, outlet, text => do
    match outlet with
    | none => modify fun s => { s with pending := text :: s.pending }
    | some (o, e) => emit run o (← textOf (← eval run fs n e)) text

/-- The body of a loop; tells whether the loop goes on. -/
def round (m : Work Unit) : Work Bool := do
  tryCatch (do
    m
    return true) fun stop =>
      match stop with
      | .leave => pure false
      | .again => pure true
      | stop => throw stop

end

/-- How deep work may be nested. -/
def depth : Nat := 20000

/-- Carries out what a rule does. -/
def act (run : Launcher) (fs : List Function) (r : Rule) : Work Unit := do
  match r.body with
  | some b => exec run fs depth b
  | none =>
    join
    let text := (← get).record ++ (← setting "ORS")
    modify fun s => { s with pending := text :: s.pending }

/-- Carries out a rule for a record if it applies; `k` is its number. -/
def applyRule (run : Launcher) (fs : List Function) (k : Nat) (r : Rule) : Work Unit := do
  let fits := fun (e : Expr) => do return (← eval run fs depth e).isTrue
  match r.on with
  | .before => return
  | .after => return
  | .each none => act run fs r
  | .each (some e) => if ← fits e then act run fs r
  | .between a b =>
    let going ← if (← get).flowing.contains k then pure true else fits a
    if going then
      let last ← fits b
      modify fun s => { s with flowing := (if last then [] else [k]) ++ s.flowing.filter (· != k) }
      act run fs r

/-- Carries out the rules for all records. -/
def records (run : Launcher) (s : Script) : Work Unit :=
  repeating (do
    match ← nextRecord 100000 with
    | none => return false
    | some record =>
      setRecord record
      tryCatch (do
        let _ ← s.rules.foldlM (fun k r => do
          applyRule run s.functions k r
          return k + 1) 0
        return true) fun stop =>
          match stop with
          | .next => pure true
          | .nextFile => do
            modify fun s => { s with input? := none }
            pure true
          | stop => throw stop) 100000000

/-- Carries out the rules of one kind that do not wait for records. -/
def apart (run : Launcher) (s : Script) (first : Bool) : Work Unit :=
  s.rules.forM fun r =>
    match r.on, first with
    | .before, true => act run s.functions r
    | .after, false => act run s.functions r
    | _, _ => pure ()

/-- Carries out a script; an exit before the end still leads to the last rules. -/
def all (run : Launcher) (s : Script) : Work Unit := do
  let waits := s.rules.any fun r =>
    match r.on with
    | .before => false
    | _ => true
  tryCatch (do
    apart run s true
    if waits then records run s) fun stop =>
      match stop with
      | .exit => pure ()
      | stop => throw stop
  tryCatch (apart run s false) fun stop =>
    match stop with
    | .exit => pure ()
    | stop => throw stop

/-- Carries out a script from its beginning, and closes all outputs; gives the status, and a complaint if the
script failed. -/
def begin (run : Launcher) (s : Script) (start : Store) : Run (Nat × Option String) := do
  let (r, store) ← ((do
    let stopped ← tryCatch (do
      all run s
      return none) fun stop =>
        match stop with
        | .fault message => pure (some message)
        | _ => pure none
    closeAll run
    return stopped : Work (Option String)).run).run start
  match r with
  | .ok none => return (store.status, none)
  | .ok (some message) => return (2, some message)
  | .error _ => return (store.status, none)

end Work

end Stepwise.Shell.Records
