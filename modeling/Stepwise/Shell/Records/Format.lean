import Stepwise.Shell.Records.Datum

/-!
Writing values in a format. Each directive needs a value of its own.
-/

namespace Stepwise.Shell.Records

/-- What has been written so far, in reverse order, and what is wrong with the rest, if anything is. -/
structure Written where
  text : List Char
  flaw? : Option String

/-- A whole number of at most 64 bits, cut off towards zero; what is too large is as large as can be. -/
def wholeOf (x : Double) : Int :=
  match x with
  | .nan => -9223372036854775808
  | .infinite s => if s then -9223372036854775807 else 18446744073709551615
  | x =>
    let i := (x.truncated.toInt?).getD 0
    if 18446744073709551615 < i then 18446744073709551615
    else if i < -9223372036854775808 then -9223372036854775807
    else i

/-- What a directive makes of a value; none if there is no such directive. -/
def directed? (convert : String) (d : Directive) (v : Datum) : Option (List Char) :=
  let x := v.toNumber
  let c := d.conversion
  if c = 'd' ∨ c = 'i' then
    let i := wholeOf x
    some (d.fillNumber d.places?.isNone (d.sign (decide (i < 0))) (d.integerDigits 10 i.natAbs))
  else if "ouxX".toList.contains c then some (d.unsigned (wholeOf x % (Nat.pow 2 64 : Nat)).toNat)
  else if c = 's' then some (d.text (v.toText convert))
  else if c = 'c' then
    let char := match v with
      | .number x => Char.ofNat ((wholeOf x % 256).toNat)
      | v => (v.toText convert).toList.headD '\x00'
    some (d.fill [char])
  else if "eEfgG".toList.contains c then
    let negative := match x with
      | .finite s _ _ => s
      | .infinite s => s
      | .nan => true
    some (d.double negative x)
  else none

/-- A width or a precision: digits, or a star for a value. -/
def measured (cs : List Char) (vs : List Datum) : Option (Option Int × List Char × List Datum) :=
  match cs with
  | '*' :: rest =>
    match vs with
    | v :: vs => some (some (wholeOf v.toNumber), rest, vs)
    | [] => none
  | _ =>
    let run := cs.takeWhile Char.isDigit
    some ((String.ofList run).toNat?.map Int.ofNat, cs.drop run.length, vs)

/-- A format with values; `k` directives came before. -/
def written (convert : String) : Nat → Nat → List Char → List Datum → List Char → Written
  | 0, _, _, _, acc => ⟨acc, none⟩
  | _, _, [], _, acc => ⟨acc, none⟩
  | n + 1, k, '%' :: '%' :: rest, vs, acc => written convert n k rest vs ('%' :: acc)
  | n + 1, k, '%' :: cs, vs, acc =>
    let few := "not enough arguments passed to "
    let flags := cs.takeWhile fun c => "-+ #0'".toList.contains c
    match measured (cs.drop flags.length) vs with
    | none => ⟨acc, some few⟩
    | some (width, rest, vs) =>
      let precision := match rest with
        | '.' :: more => (measured more vs).map fun (r : Option Int × List Char × List Datum) => (some r.1, r.2)
        | _ => some (none, rest, vs)
      match precision with
      | none => ⟨acc, some few⟩
      | some (precision, rest, vs) =>
        let rest := rest.dropWhile fun c => "hlLqjzt".toList.contains c
        let c := rest.headD '\x00'
        match vs with
        | [] => ⟨acc, some few⟩
        | v :: vs =>
          match directed? convert ⟨flags, width, precision, c, ""⟩ v with
          | some text => written convert n (k + 1) (rest.drop 1) vs (text.reverse ++ acc)
          | none => ⟨acc, some ("improper conversion(number " ++ toString (k + 1) ++ ") in ")⟩
  | n + 1, k, c :: rest, vs, acc => written convert n k rest vs (c :: acc)

end Stepwise.Shell.Records
