import UmlPress.Template.Value

/-!
# Trees of templates

A template is a list of nodes: texts, printed expressions and statements. An
`elif` is an `if` inside the `else` before it.
-/
namespace UmlPress.Template

inductive Comparison where
  | eq | ne | lt | le | gt | ge | within | notWithin
  deriving Repr, DecidableEq

inductive Arithmetic where
  | add | sub | mul | div | floordiv | mod | pow
  deriving Repr, DecidableEq

inductive Expr where
  | constant (v : Value)
  | name (s : String)
  /-- A name for the variable that another name is for. -/
  | alias (s slot : String)
  | tuple (items : List Expr)
  | list (items : List Expr)
  | record (pairs : List (Expr × Expr))
  | member (e : Expr) (name : String)
  | item (e index : Expr)
  | slice (e : Expr) (start stop step : Option Expr)
  | call (e : Expr) (args : List (Option String × Expr))
  | filter (e : Expr) (name : String) (args : List (Option String × Expr))
  | test (e : Expr) (name : String) (args : List (Option String × Expr))
  | negate (e : Expr)
  | minus (e : Expr)
  | plus (e : Expr)
  | both (left right : Expr)
  | either (left right : Expr)
  | arithmetic (op : Arithmetic) (left right : Expr)
  | joined (items : List Expr)
  | compare (e : Expr) (rest : List (Comparison × Expr))
  /-- A choice on the line where it starts; the second branch may be missing. -/
  | choice (condition yes : Expr) (no : Option Expr) (line : Nat)
  deriving Inhabited

inductive Target where
  | name (s : String)
  | tuple (items : List Target)
  /-- A member of a variable, which nothing here allows to be set. -/
  | member (owner name : String)

inductive Node where
  | text (s : String)
  | print (e : Expr)
  | branch (condition : Expr) (body otherwise : List Node)
  | loop (target : Target) (iterated : Expr) (only : Option Expr) (body otherwise : List Node)
  | assign (target : Target) (e : Expr)
  | assignBlock (target : Target) (body : List Node)
  | include (e : Expr) (ignoreMissing : Bool)

abbrev Tree := List Node

/-- What an expression is called where it cannot be assigned to. -/
def Expr.kind : Expr → String
  | .constant _ => "const"
  | .name _ => "name"
  | .alias _ _ => "name"
  | .tuple _ => "tuple"
  | .list _ => "list"
  | .record _ => "dict"
  | .member _ _ => "getattr"
  | .item _ _ => "getitem"
  | .slice _ _ _ _ => "getitem"
  | .call _ _ => "call"
  | .filter _ _ _ => "filter"
  | .test _ _ _ => "test"
  | .negate _ => "not"
  | .minus _ => "neg"
  | .plus _ => "pos"
  | .both _ _ => "and"
  | .either _ _ => "or"
  | .arithmetic op _ _ =>
    match op with
    | .add => "add"
    | .sub => "sub"
    | .mul => "mul"
    | .div => "div"
    | .floordiv => "floordiv"
    | .mod => "mod"
    | .pow => "pow"
  | .joined _ => "concat"
  | .compare _ _ => "compare"
  | .choice _ _ _ _ => "condexpr"

mutual

/-- An expression as the target of an assignment. -/
def Expr.target? : Expr → Option Target
  | .name s => if s ∈ ["true", "false", "none", "True", "False", "None"] then none
    else some (.name s)
  | .tuple items => (targets? items).map .tuple
  | _ => none

def targets? : List Expr → Option (List Target)
  | [] => some []
  | e :: r =>
    match e.target?, targets? r with
    | some t, some ts => some (t :: ts)
    | _, _ => none

end

end UmlPress.Template
