import UmlPress.Json.Basic

/-!
# Elements of a model

A model is a tree of elements. Each has an id, a name and a documentation, and
its shape says what else it holds. Ids, names and types come from a document
that nobody has checked, so they are values of any type.

Only packages hand on their elements to a walk over the model. Elements nested
in other shapes can be looked up by id, and that is all.
-/
namespace UmlPress

structure Parameter where
  name : Json
  type : Json := .text ""
  direction : Json := .text "in"

structure Attribute where
  name : Json
  type : Json := .text ""
  isStatic : Bool := false

structure Operation where
  name : Json
  doc : Json := .text ""
  isStatic : Bool := false
  parameters : List Parameter := []

/-- The parameters of a call; a result is no part of it. -/
def Operation.inputs (o : Operation) : List Parameter :=
  o.parameters.filter fun p => !p.direction.equals (.text "return")

structure Facts where
  id : Json
  name : Json
  doc : Json := .text ""
  deriving Inhabited

inductive Shape where
  | package
  /-- A class or an interface. -/
  | classifier (isInterface : Bool) (attributes : List Attribute) (operations : List Operation)
  | enumeration (literals : List Json)
  /-- An element that nothing is generated for. -/
  | other (type : Json)
  | unsupported
  deriving Inhabited

inductive Element where
  | node (facts : Facts) (shape : Shape) (owned : List Element)
  deriving Inhabited

namespace Element

def facts : Element → Facts
  | .node f _ _ => f

def shape : Element → Shape
  | .node _ s _ => s

def owned : Element → List Element
  | .node _ _ es => es

def id (e : Element) : Json := e.facts.id

def name (e : Element) : Json := e.facts.name

def isPackage (e : Element) : Bool :=
  match e.shape with
  | .package => true
  | _ => false

/-- The attributes and operations of a class or an interface. -/
def members? (e : Element) : Option (List Attribute × List Operation) :=
  match e.shape with
  | .classifier _ attributes operations => some (attributes, operations)
  | _ => none

def literals? (e : Element) : Option (List Json) :=
  match e.shape with
  | .enumeration literals => some literals
  | _ => none

/-- The elements that take part in a walk. -/
def children (e : Element) : List Element := if e.isPackage then e.owned else []

mutual

/-- How many elements a tree has. -/
def count : Element → Nat
  | .node _ _ owned => countAll owned + 1

def countAll : List Element → Nat
  | [] => 0
  | e :: r => e.count + countAll r

end

/-- What holds of an element if it holds of all that the element owns holds of
every element. -/
@[elab_as_elim, induction_eliminator]
theorem inductionOn {P : Element → Prop}
    (node : ∀ facts shape owned, (∀ e ∈ owned, P e) → P (.node facts shape owned)) (e : Element) :
    P e := by
  induction e using Element.rec (motive_2 := fun es => ∀ e ∈ es, P e) with
  | node facts shape owned ih => exact node facts shape owned ih
  | nil e h => cases h
  | cons e r he hr e' h =>
    rcases List.mem_cons.1 h with rfl | h
    · exact he
    · exact hr e' h

end Element

inductive EdgeKind where
  | generalization
  | interfaceRealization
  /-- A relationship that nothing is inherited by. -/
  | other (text : String)
  deriving Repr, DecidableEq

def EdgeKind.text : EdgeKind → String
  | .generalization => "generalization"
  | .interfaceRealization => "interface_realization"
  | .other text => text

def EdgeKind.inherits : EdgeKind → Bool
  | .other _ => false
  | _ => true

/-- A relationship between two elements, given by their ids. -/
structure Edge where
  source : Json
  target : Json
  kind : EdgeKind

end UmlPress
