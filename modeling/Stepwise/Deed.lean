import Stepwise.Chat.Message
import Stepwise.Journal.Level

/-!
What capabilities and plugins do that can be seen from outside: lines on the console, calls of
methods, commands, requests to the completion provider, and diagnostics.
-/

namespace Stepwise

/-- How a line on the console is meant. -/
inductive Tone
  | info
  | success
  | error
  | plain
  deriving DecidableEq, Repr

/-- What a completion is asked for. -/
inductive Purpose
  | plan
  | task
  deriving DecidableEq, Repr

/-- One thing that was done. -/
inductive Deed
  | show (tone : Tone) (text : String)
  | stream (text : String) (delay : Value)
  | call (name : String) (args : List Value)
  | command (text : String)
  | request (purpose : Purpose) (messages : List Message)
  | diagnostic (level : Level) (source : Source) (text : String)
  deriving DecidableEq, Repr

end Stepwise
