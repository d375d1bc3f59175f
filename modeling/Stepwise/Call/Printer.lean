import Stepwise.Call.Basic
import Stepwise.Text.Lines

/-!
Writing calls. The written form of an argument is its text, a reference being spelled out; the
tagged form of a call puts the marker and one layer of quotes around each text.
-/

namespace Stepwise

/-- An argument as it is written in a plan, without quotes. -/
def Argument.text : Argument → String
  | .literal s => s
  | .reference i => Call.outputsName ++ "[" ++ toString i ++ "]"

namespace Call

/-- The arguments as they are written in a plan. -/
def rawArgs (c : Call) : List String := c.args.map Argument.text

/-- An argument in tagged notation; texts stand between two quote characters. -/
def tagged (quote : Char) : Argument → List Char
  | .literal s => marker.toList ++ quote :: s.toList ++ [quote]
  | .reference i => marker.toList ++ (Argument.reference i).text.toList

/-- A call in tagged notation, its texts between double quotes. -/
def render (c : Call) : String :=
  c.space ++ "." ++ c.function ++ "(" ++
    String.ofList (Text.join ", ".toList (c.args.map (tagged '"'))) ++ ")"

end Call

end Stepwise
