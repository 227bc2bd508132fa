import UmlPress.Template.Filters

/-!
# What a template mentions

A filter or test that is not known makes an expression malformed, unless it stands
under a condition: there it only counts if it is reached. The state of a loop
is kept only for a body that mentions it, and nothing in a loop may set it.
-/
namespace UmlPress.Template

mutual

/-- The variables that an expression reads. -/
def Expr.names : Expr → List String
  | .constant _ => []
  | .name s => [s]
  | .alias s _ => [s]
  | .tuple items => namesIn items
  | .list items => namesIn items
  | .record pairs => namesInPairs pairs
  | .member e _ => e.names
  | .item e index => e.names ++ index.names
  | .slice e start stop step =>
    e.names ++ namesInOption start ++ namesInOption stop ++ namesInOption step
  | .call e args => e.names ++ namesInArgs args
  | .filter e _ args => e.names ++ namesInArgs args
  | .test e _ args => e.names ++ namesInArgs args
  | .negate e => e.names
  | .minus e => e.names
  | .plus e => e.names
  | .both a b => a.names ++ b.names
  | .either a b => a.names ++ b.names
  | .arithmetic _ a b => a.names ++ b.names
  | .joined items => namesIn items
  | .compare e rest => e.names ++ namesInRest rest
  | .choice condition yes no _ => condition.names ++ yes.names ++ namesInOption no

def namesIn : List Expr → List String
  | [] => []
  | e :: r => e.names ++ namesIn r

def namesInOption : Option Expr → List String
  | none => []
  | some e => e.names

def namesInPairs : List (Expr × Expr) → List String
  | [] => []
  | (k, v) :: r => k.names ++ v.names ++ namesInPairs r

def namesInArgs : List (Option String × Expr) → List String
  | [] => []
  | (_, e) :: r => e.names ++ namesInArgs r

def namesInRest : List (Comparison × Expr) → List String
  | [] => []
  | (_, e) :: r => e.names ++ namesInRest r

end

mutual

/-- The variables that a node reads. -/
def Node.names : Node → List String
  | .text _ => []
  | .print e => e.names
  | .branch condition body otherwise =>
    condition.names ++ namesInTree body ++ namesInTree otherwise
  | .loop _ iterated only body otherwise =>
    iterated.names ++ namesInOption only ++ namesInTree body ++ namesInTree otherwise
  | .assign _ e => e.names
  | .assignBlock _ body => namesInTree body
  | .include e _ => e.names

def namesInTree : List Node → List String
  | [] => []
  | n :: r => n.names ++ namesInTree r

end

mutual

/-- The variables that a target sets. -/
def Target.names : Target → List String
  | .name s => [s]
  | .tuple items => namesOfTargets items
  | .member _ _ => []

def namesOfTargets : List Target → List String
  | [] => []
  | t :: r => t.names ++ namesOfTargets r

end

mutual

/-- The variables that a node sets. -/
def Node.assigned : Node → List String
  | .text _ => []
  | .print _ => []
  | .branch _ body otherwise => assignedInTree body ++ assignedInTree otherwise
  | .loop target _ _ body otherwise =>
    target.names ++ assignedInTree body ++ assignedInTree otherwise
  | .assign target _ => target.names
  | .assignBlock target body => target.names ++ assignedInTree body
  | .include _ _ => []

def assignedInTree : List Node → List String
  | [] => []
  | n :: r => n.assigned ++ assignedInTree r

end

/-- Whether the state of a loop can be seen in a body. -/
def mentionsLoop (body : List Node) : Bool := (namesInTree body).contains "loop"

mutual

/-- The first unknown filter or test of an expression. `under` tells whether
the expression stands under a condition. -/
def Expr.unknown? (under : Bool) : Expr → Option SyntaxFault
  | .constant _ => none
  | .name _ => none
  | .alias _ _ => none
  | .tuple items => unknownIn? under items
  | .list items => unknownIn? under items
  | .record pairs => unknownInPairs? under pairs
  | .member e _ => e.unknown? under
  | .item e index => e.unknown? under <|> index.unknown? under
  | .slice e start stop step =>
    e.unknown? under <|> unknownInOption? under start <|> unknownInOption? under stop <|>
      unknownInOption? under step
  | .call e args => e.unknown? under <|> unknownInArgs? under args
  | .filter e name args =>
    (if !under && !Filter.names.contains name then some (.unknownFilter name) else none) <|>
      e.unknown? under <|> unknownInArgs? under args
  | .test e name args =>
    (if !under && !Test.isKnown name then some (.unknownTest name) else none) <|>
      e.unknown? under <|> unknownInArgs? under args
  | .negate e => e.unknown? under
  | .minus e => e.unknown? under
  | .plus e => e.unknown? under
  | .both a b => a.unknown? under <|> b.unknown? under
  | .either a b => a.unknown? under <|> b.unknown? under
  | .arithmetic _ a b => a.unknown? under <|> b.unknown? under
  | .joined items => unknownIn? under items
  | .compare e rest => e.unknown? under <|> unknownInRest? under rest
  | .choice condition yes no _ =>
    condition.unknown? true <|> yes.unknown? true <|> unknownInOption? true no

def unknownIn? (under : Bool) : List Expr → Option SyntaxFault
  | [] => none
  | e :: r => e.unknown? under <|> unknownIn? under r

def unknownInOption? (under : Bool) : Option Expr → Option SyntaxFault
  | none => none
  | some e => e.unknown? under

def unknownInPairs? (under : Bool) : List (Expr × Expr) → Option SyntaxFault
  | [] => none
  | (k, v) :: r => k.unknown? under <|> v.unknown? under <|> unknownInPairs? under r

def unknownInArgs? (under : Bool) : List (Option String × Expr) → Option SyntaxFault
  | [] => none
  | (_, e) :: r => e.unknown? under <|> unknownInArgs? under r

def unknownInRest? (under : Bool) : List (Comparison × Expr) → Option SyntaxFault
  | [] => none
  | (_, e) :: r => e.unknown? under <|> unknownInRest? under r

end

/-- Whether a loop with these parts sets its own state. -/
def assignsLoop (target : Target) (body otherwise : List Node) : Bool :=
  (target.names ++ assignedInTree body ++ assignedInTree otherwise).contains "loop"

end UmlPress.Template
