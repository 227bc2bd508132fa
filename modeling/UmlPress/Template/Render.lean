import UmlPress.Template.Evaluate
import UmlPress.Template.Mention

/-!
# Applying templates

A template is applied to variables. A loop, a block that is assigned, and an
included template each open a frame of their own, and what is set there is gone
when it closes. A branch shares the frame around it.
-/
namespace UmlPress.Template

/-- The items that are set to as many targets. -/
def unpack (wanted : Nat) (v : Value) : Outcome (List Value) :=
  match v.iterate with
  | .error (.misuse (.notIterable type)) => .error (.notItems type)
  | .error f => .error f
  | .ok items =>
    if items.length = wanted then .ok items
    else if items.length < wanted then .error (.tooFew wanted items.length)
    else .error (.tooMany wanted)

mutual

/-- Sets what a target names in the innermost frame. -/
def Target.bind : Target → Value → Scope → Outcome Scope
  | .name s, v, scope => .ok (scope.put s v)
  | .tuple items, v, scope => do
    bindAll items (← unpack items.length v) scope
  | .member _ _, _, _ => .error .readOnly

def bindAll : List Target → List Value → Scope → Outcome Scope
  | t :: ts, v :: vs, scope => do
    let scope ← t.bind v scope
    bindAll ts vs scope
  | _, _, scope => .ok scope

end

mutual

def Target.hasMember : Target → Bool
  | .name _ => false
  | .tuple items => anyHasMember items
  | .member _ _ => true

def anyHasMember : List Target → Bool
  | [] => false
  | t :: r => t.hasMember || anyHasMember r

end

/-- The items of a loop that pass its condition, up to the first fault. -/
def passing (setting : Setting) (scope : Scope) (target : Target) (only : Option Expr) :
    List Value → List Value × Option Fault
  | [] => ([], none)
  | v :: r =>
    match only with
    | none => (v :: r, none)
    | some condition =>
      let test : Outcome Bool := do
        let inner ← target.bind v scope.nested
        (← condition.eval setting inner).truth
      match test with
      | .error f => ([], some f)
      | .ok passes =>
        let (kept, fault) := passing setting scope target only r
        (if passes then v :: kept else kept, fault)

/-- What an inclusion writes, given the value that names the template. -/
abbrev Inclusion := Value → Bool → Scope → Outcome String

mutual

/-- What a node writes, and the variables after it. -/
def Node.render (inclusion : Inclusion) (setting : Setting) :
    Node → Scope → Outcome (String × Scope)
  | .text s, scope => .ok (s, scope)
  | .print e, scope => do
    return (← setting.printed (← e.eval setting scope), scope)
  | .branch condition body otherwise, scope => do
    if ← (← condition.eval setting scope).truth then renderAll inclusion setting body scope
    else renderAll inclusion setting otherwise scope
  | .loop target iterated only body otherwise, scope => do
    let items ← (← iterated.eval setting scope).iterate
    let (kept, fault) := passing setting scope target only items
    if kept.isEmpty && fault.isNone then
      return ((← renderAll inclusion setting otherwise scope.nested).1, scope)
    let state (n : Nat) : Scope :=
      (if mentionsLoop body then [("loop", .loop n kept)] else []) :: scope
    let texts ← kept.zipIdx.mapM fun (v, n) => do
      let inner ← target.bind v (state n)
      return (← renderAll inclusion setting body inner).1
    match fault with
    | some f => throw f
    | none => return (String.join texts, scope)
  | .assign target e, scope => do
    if target.hasMember then throw .readOnly
    return ("", ← target.bind (← e.eval setting scope) scope)
  | .assignBlock target body, scope => do
    let (s, _) ← renderAll inclusion setting body scope.nested
    return ("", ← target.bind (.text s setting.escaping) scope)
  | .include e ignoreMissing, scope => do
    return (← inclusion (← e.eval setting scope) ignoreMissing scope, scope)

def renderAll (inclusion : Inclusion) (setting : Setting) :
    List Node → Scope → Outcome (String × Scope)
  | [], scope => .ok ("", scope)
  | n :: r, scope => do
    let (first, scope) ← n.render inclusion setting scope
    let (rest, scope) ← renderAll inclusion setting r scope
    return (first ++ rest, scope)

end

end UmlPress.Template
