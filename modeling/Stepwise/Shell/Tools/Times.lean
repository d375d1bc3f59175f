import Stepwise.Shell.Calendar
import Stepwise.Shell.Tools.Files

/-!
Programs that tell or set times: `touch` and `date`.
-/

namespace Stepwise.Shell.Tools

open Run

/-- The time that options ask for: that of a text, of a stamp or of another file; or a complaint. -/
def timeAsked (tool : String) (p : Parsed) : Run (Except String Int) := do
  match p.value? 'd', p.value? 't', p.value? 'r' with
  | some s, _, _ =>
    pure (match Calendar.read? (← now) s with
      | some t => .ok t
      | none => .error ("invalid date" ++ (if tool = "touch" then " format " else " ") ++ named s))
  | none, some s, _ =>
    pure (match Calendar.stamp? (← now) s with
      | some t => .ok t
      | none => .error ("invalid date format " ++ named s))
  | none, none, some a =>
    match ← nodeAt true a with
    | .error e =>
      pure (.error (if tool = "touch" then "failed to get attributes of " ++ quoted a ++ ": " ++ reason e
        else shown a ++ ": " ++ reason e))
    | .ok _ => return .ok (← timeAt ((← placeOf true a).getD []))
  | none, none, none => return .ok (← now)

def touch (args : List String) : Run Nat :=
  let known := lettered "acmhfd:t:r:".toList ++
    worded [("no-create", 'c', false), ("date", 'd', true), ("reference", 'r', true)]
  withOptions "touch" 1 known false args fun p => do
    match ← timeAsked "touch" p with
    | .error e => fault "touch" e 1
    | .ok time =>
      let mark := fun (a : String) => do
        if !(p.has 'a' && !p.has 'm') then
          let place := (← placeOf true a).getD []
          stamp place time
          (← twinsOf place).forM fun other => stamp other time
      if p.operands.isEmpty then fault "touch" ("missing file operand" ++ hint "touch") 1
      else forEach (fun a => do
        let path ← locate a
        match ← nodeAt true a with
        | .ok _ =>
          mark a
          pure 0
        | .error e =>
          if reason e ≠ Errno.noEntry.text then fault "touch" ("cannot touch " ++ quoted a ++ ": " ++ reason e) 1
          else if p.has 'c' then pure 0
          else
            match ← (if a.isEmpty then pure (some e) else store path id) with
            | none =>
              mark a
              pure 0
            | some e => fault "touch" ("cannot touch " ++ quoted a ++ ": " ++ reason e) 1) p.operands

/-- The format in which a date is asked for by name. -/
def dateFormat (p : Parsed) : String :=
  match p.value? 'I', p.value? '3' with
  | some s, _ =>
    if s = "hours" then "%FT%H%:z"
    else if s = "minutes" then "%FT%H:%M%:z"
    else if s = "seconds" then "%FT%T%:z"
    else if s = "ns" then "%FT%T,%N%:z"
    else "%F"
  | none, some s =>
    if s = "date" then "%F" else if s = "seconds" then "%F %T%:z" else "%F %T.%N%:z"
  | none, none => if p.has 'R' then "%a, %d %b %Y %T %z" else "%a %b %e %T %Z %Y"

def date (args : List String) : Run Nat :=
  let known := lettered "d:r:uRf:s:".toList ++ [⟨'I', "iso-8601", true, true⟩] ++
    worded [("date", 'd', true), ("reference", 'r', true), ("utc", 'u', false), ("universal", 'u', false),
      ("rfc-email", 'R', false), ("rfc-3339", '3', true)]
  withOptions "date" 1 known false args fun p => do
    match p.operands with
    | a :: b :: _ => fault "date" ("extra operand " ++ named (if a.toList.head? == some '+' then b else b) ++ hint "date") 1
    | operands =>
      match ← timeAsked "date" p with
      | .error e => fault "date" e 1
      | .ok time =>
        let shown (format : List Char) : Run Nat := do
          let m := Calendar.Moment.ofSeconds (time.fdiv 1000000)
          out (Calendar.formatted m ((time.fmod 1000000).toNat * 1000) format ++ ['\n'])
          pure 0
        match operands with
        | [] => shown (dateFormat p).toList
        | a :: _ =>
          match a.toList with
          | '+' :: format => shown format
          | _ => fault "date" ("invalid date " ++ named a) 1

end Stepwise.Shell.Tools
