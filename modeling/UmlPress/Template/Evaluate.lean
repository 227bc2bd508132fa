import UmlPress.Template.Filters

/-!
# Values of expressions

Variables live in frames, and a name stands for the innermost variable that has
it. An expression is evaluated from the left to the right, and the first fault
ends it.
-/
namespace UmlPress.Template

/-- Frames of variables, the innermost first. -/
abbrev Scope := List (Keyed String Value)

namespace Scope

def get? (name : String) : Scope → Option Value
  | [] => none
  | frame :: r =>
    match Keyed.get? name frame with
    | some v => some v
    | none => get? name r

def put (name : String) (v : Value) : Scope → Scope
  | [] => [[(name, v)]]
  | frame :: r => Keyed.put name v frame :: r

def nested (s : Scope) : Scope := [] :: s

end Scope

/-- What holds throughout one template. -/
structure Setting where
  name : String
  escaping : Bool := false
  /-- Whether only constant expressions have a value. -/
  constant : Bool := false
  /-- Names for the variables of other names. -/
  aliases : List (String × String) := []

/-- A name, whatever the case of its letters, that stands for marked-up text. -/
def escapes (name : String) : Bool :=
  let lowered := name.toList.map Char.toLower
  [".html", ".xml"].any fun ending => ending.toList.isSuffixOf lowered

namespace Setting

def ofName (name : String) : Setting := { name, escaping := escapes name }

/-- What stands for the branch that a choice does not have. -/
def noBranch (s : Setting) (line : Nat) : Outcome Value :=
  if s.constant then .error .notConstant
  else .ok (.absent false (.hint
    (s!"the inline if-expression on line {line} in {quote s.name} evaluated to false " ++
      "and no else section was defined.")))

/-- What a name stands for that no variable has. -/
def unset (s : Setting) (shown slot : String) : Value :=
  if slot = "self" then .template s.name
  else (Value.global? slot).getD (.absent true (.name shown))

/-- The value of a variable, which may go by another name. -/
def lookUp (s : Setting) (scope : Scope) (shown slot : String) : Outcome Value :=
  if s.constant then .error .notConstant else .ok ((scope.get? slot).getD (s.unset shown slot))

/-- A constant. A number without digits is written as a name, and there is
nothing of such a name. -/
def literal (s : Setting) (v : Value) : Outcome Value :=
  match v.wordIn? with
  | some word => if s.constant then .ok v else .error (.noSuchName word)
  | none => .ok v

/-- Constant texts are joined as they are. -/
def joined (s : Setting) (vs : List Value) : Outcome Value :=
  Value.joinedTexts (s.escaping && !s.constant) vs

/-- The printed form of a value. -/
def printed (s : Setting) (v : Value) : Outcome String :=
  if s.escaping then v.escaped else v.display

end Setting

/-- The pairs of a record; of two pairs with one key, the first gives the place
and the last the value. -/
def recordOf (pairs : List (Value × Value)) : Outcome Value := do
  let put (made : List (Value × Value)) (p : Value × Value) : List (Value × Value) :=
    if (Value.lookup? p.1 made).isSome then
      made.map fun q => if q.1.sameKey p.1 then (q.1, p.2) else q
    else made ++ [p]
  for (k, _) in pairs do
    match k with
    | .absent true why => throw (.absent why)
    | k => if !k.isHashable then throw (.misuse (.notHashable k.typeName))
  return .record (pairs.foldl put [])

def called (v : Value) : Outcome Value := do
  throw (.notCallable (← v.present).typeName)

mutual

/-- The value of an expression. -/
def Expr.eval (setting : Setting) (scope : Scope) : Expr → Outcome Value
  | .constant v => setting.literal v
  | .name s => setting.lookUp scope s s
  | .alias s slot => setting.lookUp scope s slot
  | .tuple items => (evalAll setting scope items).map .tuple
  | .list items => (evalAll setting scope items).map .list
  | .record pairs => do recordOf (← evalPairs setting scope pairs)
  | .member e name => do (← e.eval setting scope).member name
  | .item e index => do
    let v ← e.eval setting scope
    v.item (← index.eval setting scope)
  | .slice e start stop step => do
    let v ← e.eval setting scope
    let start ← evalOption setting scope start
    let stop ← evalOption setting scope stop
    let step ← evalOption setting scope step
    v.slice start stop step
  | .call e args => do
    let v ← e.eval setting scope
    let _ ← evalArgs setting scope args
    called v
  | .filter e name args => do
    let v ← e.eval setting scope
    Filter.apply setting.escaping name v (← evalArgs setting scope args)
  | .test e name args => do
    let v ← e.eval setting scope
    return .bool (← Test.apply name v (← evalArgs setting scope args))
  | .negate e => do return .bool !(← (← e.eval setting scope).truth)
  | .minus e => do (← e.eval setting scope).negated
  | .plus e => do (← e.eval setting scope).unchanged
  | .both left right => do
    let v ← left.eval setting scope
    if ← v.truth then right.eval setting scope else return v
  | .either left right => do
    let v ← left.eval setting scope
    if ← v.truth then return v else right.eval setting scope
  | .arithmetic op left right => do
    let v ← left.eval setting scope
    v.arithmetic op (← right.eval setting scope)
  | .joined items => do setting.joined (← evalAll setting scope items)
  | .compare e rest => do evalRest setting scope (← e.eval setting scope) rest
  | .choice condition yes no line => do
    if ← (← condition.eval setting scope).truth then yes.eval setting scope
    else
      match ← evalOption setting scope no with
      | some v => return v
      | none => setting.noBranch line

def evalAll (setting : Setting) (scope : Scope) : List Expr → Outcome (List Value)
  | [] => .ok []
  | e :: r => do
    let v ← e.eval setting scope
    return v :: (← evalAll setting scope r)

def evalOption (setting : Setting) (scope : Scope) : Option Expr → Outcome (Option Value)
  | none => .ok none
  | some e => (e.eval setting scope).map some

def evalPairs (setting : Setting) (scope : Scope) :
    List (Expr × Expr) → Outcome (List (Value × Value))
  | [] => .ok []
  | (k, e) :: r => do
    let key ← k.eval setting scope
    let v ← e.eval setting scope
    return (key, v) :: (← evalPairs setting scope r)

def evalArgs (setting : Setting) (scope : Scope) :
    List (Option String × Expr) → Outcome Arguments
  | [] => .ok []
  | (name, e) :: r => do
    let v ← e.eval setting scope
    return (name, v) :: (← evalArgs setting scope r)

/-- The rest of a chain of comparisons holds if each one does; the first that
does not ends it. -/
def evalRest (setting : Setting) (scope : Scope) (v : Value) :
    List (Comparison × Expr) → Outcome Value
  | [] => .ok (.bool true)
  | (op, e) :: r => do
    let w ← e.eval setting scope
    if ← Value.holds op v w then evalRest setting scope w r else return .bool false

end

end UmlPress.Template
