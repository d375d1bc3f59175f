import Stepwise.Shell.Format
import Stepwise.Shell.Signal
import Stepwise.Shell.Tools.Basic

/-!
Programs that carry out others or tell about the system: `env`, `printenv`, `xargs`, `timeout`,
`nohup`, `sleep`, `whoami`, `id`, `uname` and `echo`; and `base64` and `od`.
-/

namespace Stepwise.Shell.Tools

open Run

/-- The variables that programs see. -/
def environment : Run (List (String × String)) := do
  return (← get).vars.reverse.filterMap fun v => if v.exported then v.value.map (v.name, ·) else none

def printenv (args : List String) : Run Nat :=
  withOptions "printenv" 2 (lettered ['0']) true args fun p => do
    let all ← environment
    if p.operands.isEmpty then
      all.forM fun v => write 1 (v.1 ++ "=" ++ v.2 ++ "\n")
      pure 0
    else forEach (fun a => do
      match all.find? (·.1 == a) with
      | some v =>
        write 1 (v.2 ++ "\n")
        pure 0
      | none => pure 1) p.operands

def env (run : Launcher) (args : List String) : Run Nat :=
  let known := lettered "i0vu:C:S:".toList ++
    worded [("ignore-environment", 'i', false), ("unset", 'u', true), ("chdir", 'C', true)]
  withOptions "env" 125 known true args fun p =>
    undoing (fun before after => { after with vars := before.vars }) do
      let (bare, operands) := match p.operands with
        | "-" :: rest => (true, rest)
        | operands => (p.has 'i', operands)
      if bare then modify fun m => { m with vars := m.vars.map fun v => { v with exported := false } }
      (p.options.filter (·.1 == 'u')).forM fun o =>
        modify fun m => { m with vars := m.vars.filter (·.name != o.2) }
      let settings := operands.takeWhile fun a => a.toList.contains '='
      settings.forM fun a => do
        let name := a.toList.takeWhile (· != '=')
        put ⟨String.ofList name, some (String.ofList (a.toList.drop (name.length + 1))), true, false⟩
      match operands.drop settings.length with
      | [] =>
        (← environment).forM fun v => write 1 (v.1 ++ "=" ++ v.2 ++ "\n")
        pure 0
      | command :: rest =>
        match ← run (command :: rest) with
        | some status => pure status
        | none => fault "env" (named command ++ ": No such file or directory") 127

/-- A length of time in microseconds; its unit may be a letter. -/
def duration? (s : String) : Option Nat :=
  let r := readReal s.toList
  let (x, rest) := (r.toDouble.1, r.rest)
  let unit := match rest with
    | [] => some 1
    | ['s'] => some 1
    | ['m'] => some 60
    | ['h'] => some 3600
    | ['d'] => some 86400
    | _ => none
  match unit, x with
  | some u, .finite false m e =>
    if rest.length = s.length then none
    else
      let m := m * u * 1000000
      some (if 0 ≤ e then m * Nat.pow 2 (min e.toNat 200) else (m + Nat.pow 2 (-e).toNat - 1) / Nat.pow 2 (-e).toNat)
  | some _, .infinite false => some (Nat.pow 10 30)
  | _, _ => none

def sleep (args : List String) : Run Nat :=
  withOptions "sleep" 1 [] false args fun p => do
    if p.operands.isEmpty then fault "sleep" ("missing operand" ++ hint "sleep") 1
    else
      let bad := p.operands.filter fun a => (duration? a).isNone
      if bad.isEmpty then
        pass ((p.operands.filterMap duration?).foldl (· + ·) 0)
        pure 0
      else
        write 2 (String.join (bad.map fun a => "sleep: invalid time interval " ++ named a ++ "\n") ++
          String.ofList ((hint "sleep").toList.drop 1) ++ "\n")
        pure 1

/-- Carries out a command for a limited time; none if the time is up. -/
def limited {α : Type} (microseconds : Nat) (act : Run α) : Run (Option α) := do
  let m ← get
  let deadline := m.elapsed + microseconds
  if microseconds = 0 || m.patience ≤ deadline then some <$> act
  else
    set { m with patience := deadline }
    try
      let a ← act
      modify fun after => { after with patience := m.patience }
      pure (some a)
    catch
      | .timeout =>
        modify fun after => { after with patience := m.patience, elapsed := deadline, budget := after.budget + 1 }
        pure none
      | h =>
        modify fun after => { after with patience := m.patience }
        throw h

def timeout (run : Launcher) (args : List String) : Run Nat := do
  let known := lettered "s:k:v".toList ++
    worded [("signal", 's', true), ("kill-after", 'k', true), ("preserve-status", 'p', false),
      ("foreground", 'F', false), ("verbose", 'v', false)]
  withOptions "timeout" 125 known true args fun p => do
    match p.operands with
    | time :: command :: rest =>
      match duration? time, Signal.numberOf? ((p.value? 's').getD "TERM") with
      | some t, some signal =>
        match ← limited t (run (command :: rest)) with
        | some (some status) => pure status
        | some none => fault "timeout" ("failed to run command " ++ named command ++ ": No such file or directory") 127
        | none =>
          if signal = 9 then write 2 "Killed\n"
          pure (if signal = 9 ∨ p.has 'p' then 128 + signal else 124)
      | none, _ => fault "timeout" ("invalid time interval " ++ named time ++ hint "timeout") 125
      | _, none => fault "timeout" (named ((p.value? 's').getD "") ++ ": invalid signal" ++ hint "timeout") 125
    | _ =>
      write 2 "Try 'timeout --help' for more information.\n"
      pure 125

def nohup (run : Launcher) (args : List String) : Run Nat := do
  match args with
  | [] => fault "nohup" ("missing operand" ++ hint "nohup") 125
  | command :: _ =>
    match ← run args with
    | some status => pure status
    | none => fault "nohup" ("failed to run command " ++ named command ++ ": No such file or directory") 127

/-- The words of a text as `xargs` reads them, by lines; quotes and backslashes keep blanks. -/
def quotedWords : Nat → Option (List Char) → List Char → List String → List (List String) →
    Except String (List (List String))
  | 0, _, _, line, done => .ok (done ++ [line])
  | n + 1, current, cs, line, done =>
    let close := fun (line : List String) => match current with
      | some w => line ++ [String.ofList w.reverse]
      | none => line
    match cs with
    | [] =>
      let line := close line
      .ok (if line.isEmpty then done else done ++ [line])
    | '\\' :: c :: rest => quotedWords n (some (c :: current.getD [])) rest line done
    | c :: rest =>
      if c = '\'' ∨ c = '"' then
        let inside := rest.takeWhile fun d => d != c && d != '\n'
        match rest.drop inside.length with
        | d :: after =>
          if d = c then quotedWords n (some (inside.reverse ++ current.getD [])) after line done
          else .error (if c = '"' then "double" else "single")
        | [] => .error (if c = '"' then "double" else "single")
      else if c = '\n' then
        let line := close line
        quotedWords n none rest [] (if line.isEmpty then done else done ++ [line])
      else if isBlank c then quotedWords n none rest (close line) done
      else quotedWords n (some (c :: current.getD [])) rest line done

/-- Words in groups of at most some of them. -/
def grouped {α : Type} (size : Nat) : Nat → List α → List (List α)
  | 0, xs => [xs]
  | n + 1, xs => if xs.length ≤ size then [xs] else xs.take size :: grouped size n (xs.drop size)

def xargs (run : Launcher) (args : List String) : Run Nat :=
  let known := lettered "0rtn:I:L:d:P:s:E:a:xp".toList ++
    worded [("null", '0', false), ("no-run-if-empty", 'r', false), ("max-args", 'n', true),
      ("replace", 'I', true), ("max-lines", 'L', true), ("delimiter", 'd', true), ("max-procs", 'P', true),
      ("verbose", 't', false)]
  withOptions "xargs" 1 known true args fun p => do
    let text := ((← readAll).toOption.getD []).map fun b => Char.ofNat b.toNat
    let separator := if p.has '0' then some '\x00'
      else (p.value? 'd').bind fun s => if s = "\\n" then some '\n' else if s = "\\0" then some '\x00'
        else if s = "\\t" then some '\t' else s.toList.head?
    let replaced := p.value? 'I'
    let badNumber := ['n', 'L'].find? fun c => (p.value? c).any fun s => (s.toNat?.getD 0) = 0
    match badNumber with
    | some c =>
      let s := (p.value? c).getD ""
      if s.toNat? = some 0 then fault "xargs" ("value 0 for -" ++ String.singleton c ++ " option should be >= 1" ++ hint "xargs") 1
      else fault "xargs" ("invalid number \"" ++ s ++ "\" for -" ++ String.singleton c ++ " option" ++ hint "xargs") 1
    | none =>
      let read : Except String (List (List String)) := match separator, replaced with
        | some sep, _ =>
          let parts := Text.splitAt sep text
          .ok ((if parts.getLast? == some [] then parts.dropLast else parts).map fun w => [String.ofList w])
        | none, some _ =>
          .ok ((linesOf text).filterMap fun l =>
            let l := l.dropWhile isBlank
            if l.isEmpty then none else some [String.ofList l])
        | none, none => quotedWords (text.length + 1) none text [] []
      match read with
      | .error kind =>
        fault "xargs" ("unmatched " ++ kind ++
          " quote; by default quotes are special to xargs unless you use the -0 option") 1
      | .ok lines =>
        let base := if p.operands.isEmpty then ["echo"] else p.operands
        let number := fun (c : Char) => (p.value? c).bind String.toNat?
        let batches := match replaced, number 'L', number 'n' with
          | some mark, _, _ =>
            lines.flatten.map fun w => base.map fun b =>
              String.ofList (Text.join w.toList (Text.splitOn mark.toList b.toList))
          | none, some k, _ => (grouped k lines.length lines).map fun ls => base ++ ls.flatten
          | none, none, some k => (grouped k lines.flatten.length lines.flatten).map fun ws => base ++ ws
          | none, none, none => [base ++ lines.flatten]
        let batches := if lines.flatten.isEmpty && (p.has 'r' || replaced.isSome) then [] else batches
        let (status, _) ← batches.foldlM (fun (status, stopped) words => do
          if stopped then pure (status, stopped)
          else
            if p.has 't' then write 2 (Text.joinText " " words ++ "\n")
            let previous ← channel? 0
            join 0 (.device .void)
            let result ← run words
            match previous with
            | some c => join 0 c
            | none => close 0
            match result with
            | none => return (← fault "xargs" (words.headD "" ++ ": No such file or directory") 127, true)
            | some 255 =>
              return (← fault "xargs" (words.headD "" ++ ": exited with status 255; aborting") 124, true)
            | some 0 => pure (status, false)
            | some s =>
              if 128 < s then return (← fault "xargs" (words.headD "" ++ ": terminated by signal " ++ toString (s - 128)) 125, true)
              else pure (123, false)) (0, false)
        pure status

def whoami (args : List String) : Run Nat :=
  withOptions "whoami" 1 [] false args fun p =>
    match p.operands with
    | [] => do
      write 1 "root\n"
      pure 0
    | a :: _ => fault "whoami" ("extra operand " ++ named a ++ hint "whoami") 1

def identify (args : List String) : Run Nat :=
  let known := lettered "ugGnrz".toList ++
    worded [("user", 'u', false), ("group", 'g', false), ("groups", 'G', false), ("name", 'n', false)]
  withOptions "id" 1 known false args fun p => do
    if p.has 'u' || p.has 'g' || p.has 'G' then write 1 (if p.has 'n' then "root\n" else "0\n")
    else write 1 "uid=0(root) gid=0(root) groups=0(root)\n"
    pure 0

def uname (args : List String) : Run Nat :=
  let known := lettered "asnrvmpio".toList ++
    worded [("kernel-name", 's', false), ("machine", 'm', false), ("operating-system", 'o', false)]
  withOptions "uname" 1 known false args fun p =>
    match p.operands with
    | a :: _ => fault "uname" ("extra operand " ++ named a ++ hint "uname") 1
    | [] => do
      let parts := [('s', "Linux"), ('m', "x86_64"), ('o', "GNU/Linux")].filterMap fun (c, s) =>
        if p.has c || p.has 'a' || (c = 's' && p.options.isEmpty) then some s else none
      write 1 (Text.joinText " " parts ++ "\n")
      pure 0

/-- Writes its arguments; escapes count only if that is asked for. -/
def plainEcho (args : List String) : Run Nat := do
  let isOption := fun (a : String) => 1 < a.length && a.toList.head? == some '-' &&
    (a.toList.drop 1).all fun c => "neE".toList.contains c
  let options := (args.takeWhile isOption).flatMap fun a => a.toList.drop 1
  let text := Text.joinText " " (args.dropWhile isOption)
  let resolved := (options.filter (· != 'n')).getLast? == some 'e'
  let (s, stopped) := if resolved then unescaped text else (text, false)
  write 1 (if options.contains 'n' || stopped then s else s ++ "\n")
  pure 0

/-- The digits of base sixty-four. -/
def sixtyFour : List Char :=
  "ABCDEFGHIJKLMNOPQRSTUVWXYZabcdefghijklmnopqrstuvwxyz0123456789+/".toList

/-- Bytes in base sixty-four. -/
def encoded64 : List Nat → List Char
  | a :: b :: c :: rest =>
    let digit := fun (i : Nat) => sixtyFour.getD (i % 64) '='
    digit (a / 4) :: digit (a * 16 + b / 16) :: digit (b * 4 + c / 64) :: digit c :: encoded64 rest
  | [a, b] =>
    let digit := fun (i : Nat) => sixtyFour.getD (i % 64) '='
    [digit (a / 4), digit (a * 16 + b / 16), digit (b * 4), '=']
  | [a] => [sixtyFour.getD (a / 4) '=', sixtyFour.getD (a * 16 % 64) '=', '=', '=']
  | [] => []

/-- The bytes that two to four digits of base sixty-four spell. -/
def spelled64 (i j : Nat) (k l : Option Nat) : List Nat :=
  (i * 4 + j / 16) :: match k, l with
    | some k, some l => [j % 16 * 16 + k / 4, k % 4 * 64 + l]
    | some k, none => [j % 16 * 16 + k / 4]
    | none, _ => []

/-- The bytes that digits of base sixty-four spell, and whether all of them could be read. -/
def decoded64 : List Char → List Nat × Bool
  | a :: b :: c :: d :: rest =>
    let value := fun (x : Char) => sixtyFour.findIdx? (· == x)
    match value a, value b, value c, value d with
    | some i, some j, some k, some l =>
      let r := decoded64 rest
      (spelled64 i j (some k) (some l) ++ r.1, r.2)
    | some i, some j, some k, none => (spelled64 i j (some k) none, d == '=' && rest.isEmpty)
    | some i, some j, none, _ => (spelled64 i j none none, c == '=' && d == '=' && rest.isEmpty)
    | _, _, _, _ => ([], false)
  | a :: b :: rest =>
    let value := fun (x : Char) => sixtyFour.findIdx? (· == x)
    match value a, value b with
    | some i, some j => (spelled64 i j (rest.head?.bind value) none, false)
    | _, _ => ([], false)
  | cs => ([], cs.isEmpty)

def base64 (args : List String) : Run Nat :=
  let known := lettered "diw:".toList ++
    worded [("decode", 'd', false), ("ignore-garbage", 'i', false), ("wrap", 'w', true)]
  withOptions "base64" 1 known false args fun p => do
    let input := p.operands.headD "-"
    match ← contents input with
    | .error e => fault "base64" (shown input ++ ": " ++ reason e) 1
    | .ok cs =>
      if p.has 'd' then
        let digits := cs.filter fun c => c != '\n' && (!p.has 'i' || c == '=' || sixtyFour.contains c)
        let (bs, fine) := decoded64 digits
        out (bs.map Char.ofNat)
        if fine then pure 0 else fault "base64" "invalid input" 1
      else
        let width := ((p.value? 'w').bind String.toNat?).getD 76
        let digits := encoded64 (cs.map Char.toNat)
        let ls := if width = 0 then [digits] else grouped width digits.length digits
        if !digits.isEmpty then out (if width = 0 then digits else unlines ls)
        pure 0

end Stepwise.Shell.Tools
