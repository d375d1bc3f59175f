import Stepwise.Validation.Checked

/-!
Messages of a conversation with the completion provider.
-/

namespace Stepwise

/-- Who speaks. -/
inductive Role
  | system
  | user
  | assistant
  deriving DecidableEq, Repr

/-- The word for a role on the wire. -/
def Role.name : Role → String
  | system => "system"
  | user => "user"
  | assistant => "assistant"

/-- One message. -/
structure Message where
  role : Role
  content : String
  deriving DecidableEq, Repr

namespace Message

/-- The role that a value names exactly. -/
def roleOf : Value → Checked Role
  | .text s =>
    match [Role.system, .user, .assistant].find? (·.name == s) with
    | some r => .good r
    | none => .problem .notAllowed
  | _ => .problem .notAllowed

/-- The message that members describe, which must have no others. -/
def ofMembers (ms : List (String × Value)) : Checked Message :=
  Checked.closed ["role", "content"] ms
    (Message.mk <$> Checked.required roleOf "role" ms <*> Checked.required Checked.text "content" ms)

/-- The message that a value describes. -/
def validate (v : Value) : Except Report Message :=
  (Checked.object ofMembers v).report "ChatMessage"

/-- A message in wire form. -/
def toWire (m : Message) : Value :=
  .object [("role", .text m.role.name), ("content", .text m.content)]

end Message

end Stepwise
