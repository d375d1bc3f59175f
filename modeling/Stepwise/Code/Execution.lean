import Stepwise.Capability.Invocation
import Stepwise.Code.Snippet
import Stepwise.Text.Lines

/-!
Laying out a block of code as the body of a function. The common margin of spaces and tabs is taken
away, the block trimmed, and every line that is not blank indented by four spaces. A single line
that starts with the prefix of the capabilities is an expression, whose value is returned.
-/

namespace Stepwise.Code

/-- The characters that a margin consists of. -/
def isMargin (c : Char) : Bool := c == ' ' || c == '\t'

/-- The longest common beginning of two texts. -/
def commonStart : List Char → List Char → List Char
  | a :: as, b :: bs => if a = b then a :: commonStart as bs else []
  | _, _ => []

/-- A line of nothing but margin becomes empty. -/
def dropBlankMargin (line : List Char) : List Char := if line.all isMargin then [] else line

/-- The common margin of the lines that are not empty. -/
def margin (lines : List (List Char)) : List Char :=
  match (lines.filter (!·.isEmpty)).map (·.takeWhile isMargin) with
  | [] => []
  | m :: ms => ms.foldl commonStart m

/-- The text without the common margin of its lines. -/
def dedent (cs : List Char) : List Char :=
  let lines := (Text.splitAt '\n' cs).map dropBlankMargin
  let m := margin lines
  Text.join ['\n'] (lines.map fun l => if m.isPrefixOf l then l.drop m.length else l)

/-- The text with four spaces in front of each line that is not blank. -/
def indent (cs : List Char) : List Char :=
  (Text.lines cs).flatMap fun l => if l.all Text.isBlank then l else "    ".toList ++ l

/-- The code that is run for a block, trimmed of what does not matter. -/
def source (code : String) : List Char := Text.trim (dedent code.toList)

/-- The body for a trimmed block. -/
def body (start source : List Char) : List Char :=
  let expression := start.isPrefixOf source && !source.contains '\n'
  let lines := if expression then "return ".toList ++ source else source
  indent (if lines.isEmpty then "pass".toList else lines)

/-- The function that a block becomes; `start` is what a call of a capability begins with. -/
def wrap (start code : String) : String :=
  "async def __ai_cmd_code_step__():\n" ++ String.ofList (body start.toList (source code)) ++ "\n"

end Stepwise.Code

/-!
Running blocks of code. The code sees the capabilities and the outputs so far. What a deferred
method would do happens only when its result is awaited, and the result of a block is awaited.
-/

namespace Stepwise.Code

variable {σ : Type} (e : Engine σ)

/-- A value, or what will give one once it is awaited. -/
inductive Operand (σ : Type)
  | ready (v : Value)
  | pending (m : Act Deed σ Value)

/-- Whether calling a handler gives a result that has to be awaited. -/
def isDeferred : Handler σ → Bool
  | .value _ => false
  | .method deferred _ => deferred
  | .teller _ => false
  | .builtin b => Toolbox.isDeferred b

/-- The base name of the capability with a name. -/
def baseOf (name : String) : String := (e.catalogue.find? name).elim name (·.base)

/-- The mapping of all capabilities, which is asked for without arguments. -/
def mapping (given : Nat) : Act Deed σ Value :=
  if given = 0 then pure e.catalogue.mapping
  else Act.fail (.general .type
    ("CapabilityNamespace." ++ Catalogue.mappingName ++ "() takes 1 positional argument but " ++
      toString (given + 1) ++ " were given"))

/-- The value of an expression. -/
def evaluate (outputs : Outputs) : Expr → Act Deed σ (Operand σ)
  | .constant v => pure (.ready v)
  | .output i => pure (.ready (outputs.get i))
  | .outputCount => pure (.ready (.int outputs.size))
  | .impossibleQuotient => Act.fail (.general .zeroDivision "division by zero")
  | .capability name =>
    match e.catalogue.handlerOf name with
    | .ok h => pure (.ready h.asValue)
    | .error f => Act.fail f
  | .call name args =>
    match e.catalogue.handlerOf name with
    | .error f => Act.fail f
    | .ok h =>
      let m := e.callHandler outputs (baseOf e name) h (Catalogue.resolveArguments args outputs)
      if name = Catalogue.mappingName then do return .ready (← mapping e args.length)
      else
        match h, isDeferred h with
        | .builtin b, true =>
          match (Toolbox.toolOf? b).bind fun t => Toolbox.arityError? t args.length with
          | some text => Act.fail (.general .type text)
          | none => pure (.pending m)
        | _, true => pure (.pending m)
        | _, false => do return .ready (← m)

/-- An operand that is awaited by the code itself, which must be pending. -/
def awaitNow : Operand σ → Act Deed σ Value
  | .pending m => m
  | .ready v => Act.fail (.general .type ("object " ++ v.kindName ++ " can't be used in 'await' expression"))

/-- What a block gives: its operand is awaited if it is pending. -/
def settle : Operand σ → Act Deed σ Value
  | .pending m => m
  | .ready v => pure v

/-- What raising an exception comes to. -/
def raise {α : Type} : Raised → Act Deed σ α
  | .exit text => Act.fail (.general .handler ("code block raised SystemExit: " ++ text))
  | .interrupt => Act.fail (.general .handler "code block raised KeyboardInterrupt: ")
  | .error kind text => Act.fail (.general kind text)

/-- Runs a block. -/
def runSnippet (outputs : Outputs) : Snippet → Act Deed σ Value
  | .nothing => pure .null
  | .raises r => raise r
  | .answer awaited x => do
    let v ← evaluate e outputs x
    if awaited then awaitNow v else settle v
  | .evaluate awaited x => do
    let v ← evaluate e outputs x
    if awaited then
      let _ ← awaitNow v
    pure .null

/-- The names that code sees beside those of the language. -/
def bindings : List String := ["__builtins__", "__name__", e.catalogue.root, Call.outputsName]

/-- Runs the code of a step. What is read is the body that the code becomes, so a text constant that
goes over several lines holds the indentation of those lines. -/
def run (outputs : Outputs) (code : String) : Act Deed σ Value := do
  Act.say (.diagnostic .debug .code ("Executing code block (" ++ toString code.length ++ " chars)"))
  let laid := body e.catalogue.opening.toList (source code)
  match Snippet.read? e.catalogue.root (Text.trimStart laid) with
  | some s => runSnippet e outputs s
  | none => Act.fail (.general .syntaxError "invalid syntax (<ai-code>, line 2)")

/-- The engine with code that may run code in turn, to a depth of `n`. -/
def equip (e : Engine σ) : Nat → Engine σ
  | 0 => { e with host := { e.host with execute := fun _ _ => Act.fail .tooDeep } }
  | n + 1 => { e with host := { e.host with execute := fun outputs code => run (equip e n) outputs code } }

end Stepwise.Code
