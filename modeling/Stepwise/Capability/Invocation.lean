import Stepwise.Capability.Toolbox

/-!
Calling a capability. A function gets the arguments as they are; a value is only taken, and calling
one with arguments fails.
-/

namespace Stepwise.Engine

variable {σ : Type} (e : Engine σ)

/-- Calls a handler that stands behind a name. Calls of methods are logged. -/
def callHandler (outputs : Outputs) (name : String) (h : Handler σ) (args : List Value) :
    Act Deed σ Value :=
  match h with
  | .value v => Act.fail (.general .type ("'" ++ v.kindName ++ "' object is not callable"))
  | .method _ f => do
    Act.say (.call name args)
    f args
  | .teller tell => Act.ofExcept (tell args.length)
  | .builtin b => Toolbox.call e outputs b args

/-- Calls a capability. -/
def invoke (outputs : Outputs) (entry : Entry σ) (args : List Value) : Act Deed σ Value :=
  if entry.kind = .value ∧ args.isEmpty then pure entry.handler.asValue
  else if entry.kind = .value ∧ !entry.handler.isCallable then
    Act.fail (.general .handler (entry.name ++ " is a value and cannot be called with arguments"))
  else callHandler e outputs entry.base entry.handler args

/-- Carries out a call from a plan. -/
def perform (outputs : Outputs) (c : Call) : Act Deed σ Value :=
  match e.catalogue.resolve c.function (some c.space) with
  | none => Act.fail (.unknownCapability c.space c.function)
  | some entry => do
    Act.say (.diagnostic .debug .dispatcher
      ("Invoking " ++ entry.name ++ " with " ++ toString c.args.length ++ " args"))
    invoke e outputs entry (Catalogue.resolveArguments c.args outputs)

end Stepwise.Engine
