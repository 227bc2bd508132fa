import UmlPress.Template.Evaluate
import UmlPress.Template.Mention
import UmlPress.Text.Likeness

/-!
# Constant expressions

Before a template is applied to anything, its constant expressions are replaced by
their values, and those that are printed by texts. A constant expression that
fails is left as it is, so that it fails when it is reached. Only where it takes
a missing value for a condition or a text, or a container for a key, is there no
way to go on, and the template has a flaw. Names that are alike are given one
variable.
-/
namespace UmlPress.Template

namespace Expr

/-- The value of an expression, if it is a constant one that has a value. -/
def value? (s : Setting) (e : Expr) : Option Value :=
  (e.eval { s with constant := true } []).toOption

/-- What is wrong with a value as a condition. -/
def conditionFlaw? (s : Setting) (e : Expr) : Option Flaw :=
  match e.value? s with
  | some (.absent true why) => some (.absent why)
  | _ => none

/-- What is wrong with the first of some texts to be joined. -/
def textFlaw? (s : Setting) : List Expr → Option Flaw
  | [] => none
  | e :: r =>
    match e.value? s with
    | none => none
    | some (.absent true why) => some (.absent why)
    | some _ => textFlaw? s r

/-- What is wrong with the first of some keys. -/
def keyFlaw? (s : Setting) : List (Expr × Expr) → Option Flaw
  | [] => none
  | (k, e) :: r =>
    match k.value? s, e.value? s with
    | some (.absent true why), some _ => some (.absent why)
    | some key, some _ =>
      if key.isHashable then keyFlaw? s r else some (.misuse (.notHashable key.typeName))
    | _, _ => none

/-- What is wrong with an expression whose parts have no flaw. -/
def flaw? (s : Setting) : Expr → Option Flaw
  | .both a _ => conditionFlaw? s a
  | .either a _ => conditionFlaw? s a
  | .choice condition _ _ _ => conditionFlaw? s condition
  | .joined items => textFlaw? s items
  | .record pairs => keyFlaw? s pairs
  | _ => none

/-- An expression with the value in its place, if it has one that can be written. -/
def closed (s : Setting) (e : Expr) : Except Flaw Expr :=
  match e.flaw? s with
  | some f => .error f
  | none =>
    match e.value? s with
    | some v => .ok (if v.isPlain then .constant v else e)
    | none => .ok e

end Expr

/-- A name, with the name of its variable if that is another one. -/
def Setting.named (s : Setting) (name : String) : Expr :=
  match s.aliases.lookup name with
  | some slot => .alias name slot
  | none => .name name

mutual

/-- An expression with all its constant parts replaced. -/
def Expr.folded (s : Setting) : Expr → Except Flaw Expr
  | .constant v => .ok (.constant v)
  | .name x => .ok (s.named x)
  | .alias x slot => .ok (.alias x slot)
  | .tuple items => do Expr.closed s (.tuple (← foldedAll s items))
  | .list items => do Expr.closed s (.list (← foldedAll s items))
  | .record pairs => do Expr.closed s (.record (← foldedPairs s pairs))
  | .member e name => do Expr.closed s (.member (← e.folded s) name)
  | .item e index => do
    let e ← e.folded s
    Expr.closed s (.item e (← index.folded s))
  | .slice e start stop step => do
    let e ← e.folded s
    let start ← foldedOption s start
    let stop ← foldedOption s stop
    Expr.closed s (.slice e start stop (← foldedOption s step))
  | .call e args => do
    let e ← e.folded s
    return .call e (← foldedArgs s args)
  | .filter e name args => do
    let e ← e.folded s
    Expr.closed s (.filter e name (← foldedArgs s args))
  | .test e name args => do
    let e ← e.folded s
    Expr.closed s (.test e name (← foldedArgs s args))
  | .negate e => do Expr.closed s (.negate (← e.folded s))
  | .minus e => do Expr.closed s (.minus (← e.folded s))
  | .plus e => do Expr.closed s (.plus (← e.folded s))
  | .both a b => do
    let a ← a.folded s
    Expr.closed s (.both a (← b.folded s))
  | .either a b => do
    let a ← a.folded s
    Expr.closed s (.either a (← b.folded s))
  | .arithmetic op a b => do
    let a ← a.folded s
    Expr.closed s (.arithmetic op a (← b.folded s))
  | .joined items => do Expr.closed s (.joined (← foldedAll s items))
  | .compare e rest => do
    let e ← e.folded s
    Expr.closed s (.compare e (← foldedRest s rest))
  | .choice condition yes no line => do
    let condition ← condition.folded s
    let yes ← yes.folded s
    Expr.closed s (.choice condition yes (← foldedOption s no) line)

def foldedAll (s : Setting) : List Expr → Except Flaw (List Expr)
  | [] => .ok []
  | e :: r => do
    let e ← e.folded s
    return e :: (← foldedAll s r)

def foldedOption (s : Setting) : Option Expr → Except Flaw (Option Expr)
  | none => .ok none
  | some e => do return some (← e.folded s)

def foldedPairs (s : Setting) : List (Expr × Expr) → Except Flaw (List (Expr × Expr))
  | [] => .ok []
  | (k, e) :: r => do
    let k ← k.folded s
    let e ← e.folded s
    return (k, e) :: (← foldedPairs s r)

def foldedArgs (s : Setting) :
    List (Option String × Expr) → Except Flaw (List (Option String × Expr))
  | [] => .ok []
  | (name, e) :: r => do
    let e ← e.folded s
    return (name, e) :: (← foldedArgs s r)

def foldedRest (s : Setting) :
    List (Comparison × Expr) → Except Flaw (List (Comparison × Expr))
  | [] => .ok []
  | (op, e) :: r => do
    let e ← e.folded s
    return (op, e) :: (← foldedRest s r)

end

/-- An expression that was folded, unless it mentions what is not known. -/
def Expr.checked (under : Bool) (e : Except Flaw Expr) : Except Unusable Expr :=
  match e with
  | .error f => .error (.flawed f)
  | .ok e =>
    match e.unknown? under with
    | some f => .error (.malformed f)
    | none => .ok e

mutual

/-- An expression ready to be evaluated. A container stays one, and its items are
looked at one by one. -/
def Expr.settled (s : Setting) (under : Bool) : Expr → Except Unusable Expr
  | .tuple items => do return .tuple (← settledAll s under items)
  | .list items => do return .list (← settledAll s under items)
  | .record pairs => do return .record (← settledPairs s under pairs)
  | e => Expr.checked under (e.folded s)

def settledAll (s : Setting) (under : Bool) : List Expr → Except Unusable (List Expr)
  | [] => .ok []
  | e :: r => do
    let e ← e.settled s under
    return e :: (← settledAll s under r)

def settledPairs (s : Setting) (under : Bool) :
    List (Expr × Expr) → Except Unusable (List (Expr × Expr))
  | [] => .ok []
  | (k, e) :: r => do
    let k ← k.settled s under
    let e ← e.settled s under
    return (k, e) :: (← settledPairs s under r)

end

mutual

/-- A target with the names of its variables. -/
def Target.settled (s : Setting) : Target → Target
  | .name x => .name ((s.aliases.lookup x).getD x)
  | .tuple items => .tuple (settledTargets s items)
  | .member owner name => .member owner name

def settledTargets (s : Setting) : List Target → List Target
  | [] => []
  | t :: r => t.settled s :: settledTargets s r

end

/-- The text of an expression that prints the same whatever the variables are. -/
def Expr.text? (s : Setting) (e : Expr) : Option String :=
  (e.value? s).bind fun v => (s.printed v).toOption

mutual

/-- A node ready to be applied. `under` tells whether it stands under a condition;
the body of a loop stands under no condition but its own. -/
def Node.settled (s : Setting) (under : Bool) : Node → Except Unusable Node
  | .text t => .ok (.text t)
  | .print e =>
    match e.text? s with
    | some t => .ok (.text t)
    | none => do return .print (← e.settled s under)
  | .branch condition body otherwise => do
    let condition ← condition.settled s true
    let body ← settledTree s true body
    return .branch condition body (← settledTree s true otherwise)
  | .loop target iterated only body otherwise => do
    let only ← match only with
      | none => pure none
      | some e => some <$> e.settled s false
    if assignsLoop target body otherwise then throw (.malformed .loopAssigned)
    let iterated ← iterated.settled s under
    let body ← settledTree s false body
    return .loop (target.settled s) iterated only body (← settledTree s false otherwise)
  | .assign target e => do return .assign (target.settled s) (← e.settled s under)
  | .assignBlock target body => do
    return .assignBlock (target.settled s) (← settledTree s false body)
  | .include e ignoreMissing => do return .include (← e.settled s under) ignoreMissing

def settledTree (s : Setting) (under : Bool) : List Node → Except Unusable Tree
  | [] => .ok []
  | n :: r => do
    let n ← n.settled s under
    return n :: (← settledTree s under r)

end

/-- Names that are alike are names for one variable, that of the last of them. -/
def aliasesOf (names : List String) : List (String × String) :=
  if names.all fun n => n.toList.all (·.toNat < 0x80) then []
  else
    let names := names.eraseDups
    names.filterMap fun n =>
      let alike := names.filter fun m => Text.areAlike n.toList m.toList
      (alike.getLast?.filter (· ≠ n)).map (n, ·)

/-- A template ready to be applied under a name. -/
def Tree.settled (name : String) (tree : Tree) : Except Unusable Tree :=
  let aliases := aliasesOf (assignedInTree tree ++ namesInTree tree)
  settledTree { Setting.ofName name with aliases } false tree

end UmlPress.Template
