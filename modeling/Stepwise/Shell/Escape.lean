import Stepwise.Shell.Machine

/-!
Escapes in what is written.
-/

namespace Stepwise.Shell

/-- The value of at most `n` octal digits, and what follows them. -/
def octal : Nat → Nat → List Char → Nat × List Char
  | 0, v, cs => (v, cs)
  | n + 1, v, c :: rest => if '0' ≤ c ∧ c ≤ '7' then octal n (v * 8 + (c.toNat - 48)) rest else (v, c :: rest)
  | _, v, [] => (v, [])

/-- The character of a letter after a backslash. -/
def letterEscape? (c : Char) : Option Char :=
  match c with
  | 'a' => some '\x07'
  | 'b' => some '\x08'
  | 'e' => some '\x1b'
  | 'f' => some '\x0c'
  | 'n' => some '\n'
  | 'r' => some '\r'
  | 't' => some '\t'
  | 'v' => some '\x0b'
  | '\\' => some '\\'
  | _ => none

/-- The character that follows a backslash, if it is an escape, and what comes after. -/
def escape? : List Char → Option (Char × List Char)
  | [] => none
  | c :: rest =>
    if '0' ≤ c ∧ c ≤ '7' then
      let r := octal 3 0 (c :: rest)
      some (Char.ofNat (r.1 % 256), r.2)
    else (letterEscape? c).map (·, rest)

/-- A text with its escapes resolved, and whether an escape asked to stop there. In octal numbers a
leading zero does not count. -/
def unescape : Nat → List Char → List Char → List Char × Bool
  | 0, acc, _ => (acc.reverse, false)
  | _, acc, [] => (acc.reverse, false)
  | n + 1, acc, '\\' :: rest =>
    match rest with
    | 'c' :: _ => (acc.reverse, true)
    | _ =>
      let counted := match rest with
        | '0' :: d :: _ => if '0' ≤ d ∧ d ≤ '7' then rest.drop 1 else rest
        | _ => rest
      match escape? counted with
      | some (c, after) => unescape n (c :: acc) after
      | none => unescape n ('\\' :: acc) rest
  | n + 1, acc, c :: rest => unescape n (c :: acc) rest

/-- A text with its escapes resolved, and whether an escape asked to stop there. -/
def unescaped (s : String) : String × Bool :=
  let r := unescape (s.length + 1) [] s.toList
  (String.ofList r.1, r.2)

end Stepwise.Shell
