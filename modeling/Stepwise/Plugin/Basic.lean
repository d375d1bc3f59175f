import Stepwise.Act
import Stepwise.Deed
import Stepwise.Plan.Reply

/-!
Plugins watch a run at fixed points and may replace what passes there: the messages to the provider,
its reply, the plan, and each step before it is executed.
-/

namespace Stepwise

/-- A point in a run, with what a plugin gets to see there. -/
inductive HookCall
  | start
  | beforeRequest (messages : List Message)
  | afterReply (reply : String)
  | afterParse (plan : List Step)
  | beforeStep (plan : List Step) (index : Nat) (step : Step)
  | afterStep (plan : List Step) (index : Nat) (step : Step) (outputs : List Value)
  | afterRun (plan : List Step) (outputs : List Value)
  deriving DecidableEq, Repr

/-- The name of a point. -/
def HookCall.name : HookCall → String
  | start => "on_initialize"
  | beforeRequest _ => "on_before_ai_request"
  | afterReply _ => "on_after_ai_request"
  | afterParse _ => "on_after_parse"
  | beforeStep .. => "on_before_step"
  | afterStep .. => "on_after_step"
  | afterRun .. => "on_after_all_steps"

/-- A plugin takes part in some points; it answers a call there with a replacement, or with nothing
to leave all as it is. -/
structure Plugin (σ : Type) where
  name : String
  hook : HookCall → Option (Act Deed σ Value)

namespace Plugin

/-- What a plugin answers to a call; where it takes no part it answers with nothing. -/
def answer {σ : Type} (p : Plugin σ) (call : HookCall) : Act Deed σ Value :=
  (p.hook call).getD (pure .null)

/-- Whether a plan is worth echoing: all but a single text answer. -/
def isWorthEchoing : List Step → Bool
  | [s] => s.kind != .answer
  | _ => true

/-- The name of the plugin that shows plans. -/
def planEchoName : String := "DefaultPlugin"

/-- The plugin that shows plans before they are executed, if that is wanted. -/
def planEcho {σ : Type} (wanted : Bool) : Plugin σ where
  name := planEchoName
  hook
    | .afterParse plan => some do
      if wanted && isWorthEchoing plan then
        Act.say (.show .info (Json.printIndented (Plan.toWire plan)))
      pure .null
    | _ => none

/-- The plugin that shows plans, made without an engine that would tell whether that is wanted. -/
def detachedPlanEcho {σ : Type} : Plugin σ where
  name := planEchoName
  hook
    | .afterParse _ =>
      some (Act.fail (.general .attribute "'NoneType' object has no attribute 'settings'"))
    | _ => none

end Plugin

end Stepwise
