import Stepwise.Plugin.Basic

/-!
The log of a run: what capabilities and plugins did, every call of a plugin, what the provider was asked
for a plan with, every failure that was reported and survived, and what was written to the terminal past
the console.
-/

namespace Stepwise

/-- One entry of the log. Plugins are known by their position; steps count from zero. -/
inductive Event
  | deed (d : Deed)
  | hook (position : Nat) (plugin : String) (call : HookCall)
  | hookFailed (position : Nat) (plugin : String) (hook : String) (cause : Fault)
  | planning (messages : List Message)
  | stepFailed (index : Nat) (cause : Fault)
  | handoff (content : String)
  | nestedFailed (cause : Fault)
  | requestFailed (cause : Fault)
  | terminal (text : String)
  deriving DecidableEq, Repr

namespace Event

/-- The line that reports a failure on the console. -/
def failureLine? : Event → Option String
  | hookFailed _ plugin point cause => some (Fault.hookFailed plugin point cause).message
  | stepFailed index cause => some ("Step " ++ toString (index + 1) ++ " failed: " ++ cause.message)
  | nestedFailed cause => some ("Nested request failed: " ++ cause.message)
  | requestFailed cause => some ("Request failed: " ++ cause.message)
  | _ => none

/-- The failure of a plugin that an entry tells of. -/
def pluginFailure? : Event → Option (String × String × Fault)
  | hookFailed _ plugin point cause => some (plugin, point, cause)
  | _ => none

end Event

/-- The failures of plugins, in the order in which they happened. -/
def pluginFailures (log : List Event) : List (String × String × Fault) :=
  log.filterMap Event.pluginFailure?

end Stepwise
