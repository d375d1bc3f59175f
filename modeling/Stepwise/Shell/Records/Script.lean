import Stepwise.Shell.Records.Datum
import Stepwise.Shell.Regex

/-!
Scripts that work on records: rules that do something to each record that fits a pattern, and functions.
-/

namespace Stepwise.Shell.Records

/-- An operation on two numbers. -/
inductive Arith
  | add | sub | mul | div | rem | pow
  deriving DecidableEq, Repr, Inhabited

/-- A comparison. -/
inductive Relation
  | less | atMost | equal | unequal | more | atLeast
  deriving DecidableEq, Repr, Inhabited

/-- Where output goes: to a file, which is emptied or gone on with, or to a command. -/
inductive Outlet
  | file
  | append
  | command
  deriving DecidableEq, Repr, Inhabited

mutual

/-- An expression. -/
inductive Expr
  | number (x : Double)
  | text (s : String)
  | pattern (r : Regex)
  | named (name : String)
  | item (table : String) (keys : Exprs)
  | field (e : Expr)
  | assign (op : Option Arith) (target value : Expr)
  | step (before up : Bool) (target : Expr)
  | choice (c a b : Expr)
  | both (a b : Expr)
  | either (a b : Expr)
  | not (a : Expr)
  | sign (minus : Bool) (a : Expr)
  | within (keys : Exprs) (table : String)
  | fits (wanted : Bool) (a b : Expr)
  | relation (r : Relation) (a b : Expr)
  | join (a b : Expr)
  | arith (op : Arith) (a b : Expr)
  | call (name : String) (args : Exprs)
  | apply (name : String) (args : Exprs)
  | next (target : Option Expr)
  | nextOf (command : Bool) (source : Expr) (target : Option Expr)
  | inner (e : Expr)

/-- Expressions in a row. -/
inductive Exprs
  | nil
  | cons (e : Expr) (es : Exprs)

end

instance : Inhabited Expr := ⟨.text ""⟩
instance : Inhabited Exprs := ⟨.nil⟩

/-- Expressions as a list. -/
def Exprs.toList : Exprs → List Expr
  | nil => []
  | cons e es => e :: es.toList

/-- A list as expressions. -/
def Exprs.ofList : List Expr → Exprs
  | [] => nil
  | e :: es => cons e (ofList es)

/-- Whether something can be assigned to an expression. -/
def Expr.isTarget : Expr → Bool
  | named _ => true
  | item .. => true
  | field _ => true
  | _ => false

/-- A statement. -/
inductive Statement
  | nothing
  | expr (e : Expr)
  | print (args : List Expr) (outlet : Option (Outlet × Expr))
  | printf (args : List Expr) (outlet : Option (Outlet × Expr))
  | block (s t : Statement)
  | choice (c : Expr) (yes no : Statement)
  | loop (c : Expr) (body : Statement)
  | loopOnce (body : Statement) (c : Expr)
  | forAll (begin : Statement) (c : Expr) (step : Statement) (body : Statement)
  | forKeys (name table : String) (body : Statement)
  | leave
  | again
  | next
  | nextFile
  | exit (status : Option Expr)
  | giveBack (value : Option Expr)
  | delete (table : String) (keys : Option (List Expr))
  deriving Inhabited

/-- When a rule applies: before all records, after them, to each that fits, or to those from one that
fits to another. -/
inductive When
  | before
  | after
  | each (e : Option Expr)
  | between (a b : Expr)
  deriving Inhabited

/-- A rule; without anything to do it shows the record. -/
structure Rule where
  on : When
  body : Option Statement
  deriving Inhabited

/-- A function: its parameters, and those of them that are tables. -/
structure Function where
  name : String
  parameters : List String
  body : Statement
  tables : List String
  deriving Inhabited

/-- A script. -/
structure Script where
  rules : List Rule
  functions : List Function
  deriving Inhabited

end Stepwise.Shell.Records
