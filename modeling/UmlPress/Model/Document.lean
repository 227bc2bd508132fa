import UmlPress.Model.Snapshot

/-!
# Documents

A project document is an object whose elements own one another. Packages,
classes, interfaces and enumerations become elements of those shapes, the two
kinds of inheritance become edges, and all else is kept as an element that
nothing is generated for. An element without an id gets a generated one.

A type may be a reference to an element by its id. It becomes that element's
name; so the names are collected first, and the types are settled last.
-/
namespace UmlPress.Document

/-- What iterating over a value gives. A value that counts as nothing has no
items. -/
def itemsOf (v : Json) : Except Misuse (List Json) :=
  if !v.truthy then .ok []
  else match v with
    | .list xs => .ok xs
    | .text s => .ok (s.toList.map fun c => .text (.singleton c))
    | .object es => .ok (es.map fun e => .text e.1)
    | v => .error (.notIterable v.typeName)

def asObject : Json → Except Misuse Entries
  | .object es => .ok es
  | v => .error (.noMember v.typeName "get")

def member (es : Entries) (key : String) : Json := Json.memberD es key .null

def nameOf (es : Entries) : Json := Json.memberD es "name" (.text "")

/-! The names of elements, by id. -/

/-- The name that an object gives to its id, if it has one. -/
def ownName (es : Entries) : Except Misuse (List (Json × Json)) :=
  match Keyed.get? "_id" es with
  | none => .ok []
  | some id => id.asKey.map fun id => [(id, nameOf es)]

mutual

/-- The ids and names of an object and of the objects below it, in the order
in which later ones overrule earlier ones. -/
def namesIn : Json → Except Misuse (List (Json × Json))
  | .object es => do
    let own ← ownName es
    let literals ← namesUnder "literals" es
    let operations ← namesUnder "operations" es
    let attributes ← namesUnder "attributes" es
    let owned ← namesUnder "ownedElements" es
    return own ++ literals ++ operations ++ attributes ++ owned
  | _ => .ok []

def namesUnder (key : String) : List (String × Json) → Except Misuse (List (Json × Json))
  | [] => .ok []
  | (k, v) :: r => if k = key then namesOf v else namesUnder key r

/-- Only a list can hold objects; the items of a text or of an object are
texts, and other values have no items. -/
def namesOf : Json → Except Misuse (List (Json × Json))
  | .list xs => namesFromLast xs
  | v => (itemsOf v).map fun _ => []

def namesFromLast : List Json → Except Misuse (List (Json × Json))
  | [] => .ok []
  | x :: r => do
    let first ← namesIn x
    let rest ← namesFromLast r
    return rest ++ first

end

/-- The last name given to an id. -/
def nameFor? (names : List (Json × Json)) (id : Json) : Option Json :=
  (names.reverse.find? fun n => n.1.sameKey id).map (·.2)

/-! Elements, with the types as they are written. -/

/-- What has been made so far: ids for elements without one, and edges. -/
structure Progress where
  generated : Nat := 0
  edges : List Edge := []

abbrev Convert := StateT Progress (Except Misuse)

def fresh : Convert Json :=
  modifyGet fun p =>
    (.text s!"_generated_{p.generated + 1}", { p with generated := p.generated + 1 })

def elementId (es : Entries) : Convert Json :=
  let id := member es "_id"
  if id.truthy then pure id else fresh

def reference (v : Json) : Json :=
  match v with
  | .object es => Json.memberD es "$ref" (.text "")
  | v => .text (v.orElse (.text "")).display

def attributeOf (v : Json) : Except Misuse Attribute := do
  let es ← asObject v
  return { name := nameOf es, type := Json.memberD es "type" (.text ""),
           isStatic := (member es "isStatic").truthy }

def parameterOf (v : Json) : Except Misuse Parameter := do
  let es ← asObject v
  return { name := nameOf es, type := Json.memberD es "type" (.text ""),
           direction := (member es "direction").orElse (.text "in") }

def operationOf (v : Json) : Except Misuse Operation := do
  let es ← asObject v
  let parameters ← (← itemsOf (member es "parameters")).mapM parameterOf
  return { name := nameOf es, doc := (member es "documentation").orElse (.text ""),
           isStatic := (member es "isStatic").truthy, parameters }

def literalOf (v : Json) : Except Misuse Json := (asObject v).map nameOf

def isPackageType (type : Json) : Bool :=
  ["Project", "UMLModel", "UMLPackage", "UMLSubsystem"].any fun t => type.equals (.text t)

def edgeKind? (type : Json) : Option EdgeKind :=
  if type.equals (.text "UMLGeneralization") then some .generalization
  else if type.equals (.text "UMLInterfaceRealization") then some .interfaceRealization
  else none

/-- What an element holds besides the elements it owns. -/
def shapeOf (type : Json) (es : Entries) : Except Misuse Shape := do
  if isPackageType type then return .package
  else if type.equals (.text "UMLClass") || type.equals (.text "UMLInterface") then
    let attributes ← (← itemsOf (member es "attributes")).mapM attributeOf
    let operations ← (← itemsOf (member es "operations")).mapM operationOf
    return .classifier (type.equals (.text "UMLInterface")) attributes operations
  else if type.equals (.text "UMLEnumeration") then
    return .enumeration (← (← itemsOf (member es "literals")).mapM literalOf)
  else return .other type

def typeOf (es : Entries) : Json := Json.memberD es "_type" (.text "")

def isEnumeration (type : Json) : Bool := type.equals (.text "UMLEnumeration")

mutual

/-- An element of a document. -/
def element : Json → Convert Element
  | .object es => do
    let id ← elementId es
    let type ← (typeOf es).asKey
    let facts : Facts :=
      ⟨id, nameOf es, (member es "documentation").orElse (.text "")⟩
    let shape ← shapeOf type es
    let owned ← if isEnumeration type then pure [] else ownedIn es
    return .node facts shape owned
  | v => throw (.noMember v.typeName "get")

def ownedIn : List (String × Json) → Convert (List Element)
  | [] => pure []
  | (k, v) :: r => if k = "ownedElements" then ownedOf v else ownedIn r

def ownedOf : Json → Convert (List Element)
  | .list xs => ownedFrom xs
  | v => do
    match ← itemsOf v with
    | [] => pure []
    | item :: _ => throw (.noMember item.typeName "get")

/-- The owned elements of a list. An inheritance is no element but an edge. -/
def ownedFrom : List Json → Convert (List Element)
  | [] => pure []
  | x :: r => do
    let es ← asObject x
    let type ← (typeOf es).asKey
    match edgeKind? type with
    | some kind =>
      modify fun p => { p with edges := p.edges ++
        [⟨reference (member es "source"), reference (member es "target"), kind⟩] }
      ownedFrom r
    | none =>
      let first ← element x
      return first :: (← ownedFrom r)

end

/-! Types. -/

/-- The text of a type; a reference becomes the name of what it refers to. -/
def settledType (names : List (Json × Json)) : Json → Except Misuse Json
  | .object es =>
    let ref := member es "$ref"
    if ref.truthy then ref.asKey.map fun ref => (nameFor? names ref).getD (.text "")
    else .ok (.text "")
  | v => .ok (.text (v.orElse (.text "")).display)

def settledAttribute (names : List (Json × Json)) (a : Attribute) : Except Misuse Attribute :=
  (settledType names a.type).map fun type => { a with type }

def settledParameter (names : List (Json × Json)) (p : Parameter) : Except Misuse Parameter :=
  (settledType names p.type).map fun type => { p with type }

def settledOperation (names : List (Json × Json)) (o : Operation) : Except Misuse Operation :=
  (o.parameters.mapM (settledParameter names)).map fun parameters => { o with parameters }

def settledShape (names : List (Json × Json)) : Shape → Except Misuse Shape
  | .classifier isInterface attributes operations => do
    return .classifier isInterface (← attributes.mapM (settledAttribute names))
      (← operations.mapM (settledOperation names))
  | s => .ok s

mutual

def settled (names : List (Json × Json)) : Element → Except Misuse Element
  | .node facts shape owned => do
    return .node facts (← settledShape names shape) (← settledOwned names owned)

def settledOwned (names : List (Json × Json)) : List Element → Except Misuse (List Element)
  | [] => .ok []
  | e :: r => do
    let first ← settled names e
    return first :: (← settledOwned names r)

end

/-- A top element that is no package is put into one of its id and name. -/
def wrapped (e : Element) : Element :=
  if e.isPackage then e else .node ⟨e.id, e.name, .text ""⟩ .package [e]

inductive Fault where
  | notObject
  | misuse (m : Misuse)

def Fault.message : Fault → String
  | .notObject => "Model document must be a JSON object"
  | .misuse m => m.message

def toSnapshot (document : Entries) : Except Misuse Snapshot := do
  let names ← namesIn (.object document)
  let (top, progress) ← (element (.object document)).run {}
  let root ← settled names (wrapped top)
  Snapshot.make root progress.edges

def read : Json → Except Fault Snapshot
  | .object es => (toSnapshot es).mapError .misuse
  | _ => .error .notObject

end UmlPress.Document
