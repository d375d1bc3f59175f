import Stepwise.Text.Utf8

/-!
Bytes as letters of all scripts. Each character of a text of the shell stands for one byte; where
bytes spell no letter, each of them is a letter of its own, which no text of letters holds.
-/

namespace Stepwise.Shell.Letters

/-- The first of the letters that stand for bytes which spell none. -/
def strayBase : Nat := 0x10FF00

/-- Whether a letter stands for a byte that spells none. -/
def isStray (c : Char) : Bool := strayBase ≤ c.toNat

/-- The letters after `skip` bytes that are already accounted for. -/
def after : Nat → List UInt8 → List Char
  | _, [] => []
  | skip + 1, _ :: rest => after skip rest
  | 0, b :: rest =>
    match Text.Utf8.lead b rest with
    | (some c, used) => c :: after used rest
    | (none, _) => Char.ofNat (strayBase + b.toNat) :: after 0 rest

/-- The letters that the bytes of a text spell. -/
def ofBytes (cs : List Char) : List Char :=
  if cs.all fun c => decide (c.toNat < 128) then cs else after 0 (cs.map fun c => UInt8.ofNat c.toNat)

/-- The bytes that spell letters. -/
def toBytes (cs : List Char) : List Char :=
  cs.flatMap fun c =>
    if c.toNat < 128 then [c]
    else if isStray c then [Char.ofNat (c.toNat - strayBase)]
    else (Text.Utf8.encodeChar c).map fun b => Char.ofNat b.toNat

/-- Texts of the first 128 characters spell themselves. -/
theorem ofBytes_eq_self {cs : List Char} (h : cs.all (fun c => decide (c.toNat < 128)) = true) :
    ofBytes cs = cs := by
  simp only [ofBytes, h, if_true]

end Stepwise.Shell.Letters
