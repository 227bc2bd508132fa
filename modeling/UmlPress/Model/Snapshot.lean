import UmlPress.Emit.Report
import UmlPress.Journal
import UmlPress.Misuse
import UmlPress.Model.Element

/-!
# Snapshots

A snapshot is a model with its relationships and a base element. The same id
may stand on several elements, so a place in the tree is told by the numbers
of the children on the way to it. Looking up an id finds the last element that
has it, in document order, and owners are looked up by id again. Both the index
and a walk take one element after the other from a stack.
-/
namespace UmlPress

/-- An element at its place: the numbers of the children on the way from the
root, the last step first. -/
structure Spot where
  steps : List Nat
  element : Element

/-- A spot together with the spot of its owner. The root has none. -/
structure Entry where
  spot : Spot
  owner : Option Spot

/-- Elements below a place, numbered from a number on. -/
def spotsBelow (steps : List Nat) (number : Nat) : List Element → List Spot
  | [] => []
  | e :: r => ⟨number :: steps, e⟩ :: spotsBelow steps (number + 1) r

namespace Spot

/-- Everything an element owns. -/
def owned (s : Spot) : List Spot := spotsBelow s.steps 0 s.element.owned

/-- The elements that a walk goes on to. -/
def children (s : Spot) : List Spot := spotsBelow s.steps 0 s.element.children

/-- How many elements a stack still leads to. -/
def countAll : List Spot → Nat
  | [] => 0
  | s :: stack => s.element.count + countAll stack

theorem countAll_cons (s : Spot) (stack : List Spot) :
    countAll (s :: stack) = s.element.count + countAll stack := rfl

theorem countAll_append (xs ys : List Spot) : countAll (xs ++ ys) = countAll xs + countAll ys := by
  induction xs with
  | nil => exact (Nat.zero_add _).symm
  | cons s r ih => rw [List.cons_append, countAll_cons, countAll_cons, ih, Nat.add_assoc]

theorem countAll_spotsBelow (steps : List Nat) (number : Nat) (es : List Element) :
    countAll (spotsBelow steps number es) = Element.countAll es := by
  induction es generalizing number with
  | nil => rfl
  | cons e r ih => rw [spotsBelow, countAll_cons, ih, Element.countAll]

theorem countAll_owned_lt (s : Spot) : countAll s.owned < s.element.count := by
  obtain ⟨steps, facts, shape, owned⟩ := s
  rw [Spot.owned, countAll_spotsBelow, Element.owned, Element.count]
  exact Nat.lt_succ_self _

theorem countAll_children_lt (s : Spot) : countAll s.children < s.element.count := by
  have h := countAll_owned_lt s
  rw [Spot.owned, countAll_spotsBelow] at h
  rw [Spot.children, countAll_spotsBelow, Element.children]
  split
  · exact h
  · exact Nat.zero_lt_of_lt h

end Spot

/-- A walk with a stack: the uppermost element is taken off, and its children
are put on, the first one uppermost. -/
def walkFrom : List Spot → List Spot
  | [] => []
  | s :: stack => s :: walkFrom (s.children ++ stack)
termination_by stack => Spot.countAll stack
decreasing_by
  have h := s.countAll_children_lt
  rw [Spot.countAll_append, Spot.countAll_cons]
  omega

/-- What an entry owns, each with the entry's spot as its owner. -/
def Entry.owned (e : Entry) : List Entry := e.spot.owned.map fun s => ⟨s, some e.spot⟩

theorem Entry.map_spot_owned (e : Entry) : e.owned.map (·.spot) = e.spot.owned := by
  simp [Entry.owned, Function.comp_def]

/-- Everything that can be looked up, met with a stack in the same way. -/
def entriesFrom : List Entry → List Entry
  | [] => []
  | e :: stack => e :: entriesFrom (e.owned ++ stack)
termination_by stack => Spot.countAll (stack.map (·.spot))
decreasing_by
  have h := e.spot.countAll_owned_lt
  rw [List.map_append, e.map_spot_owned, List.map_cons, Spot.countAll_append, Spot.countAll_cons]
  omega

/-- What can be looked up by an id: the element and its owner. Each is kept on
its own, the one put last in front. -/
structure Register where
  spots : List (Json × Spot) := []
  owners : List (Json × Spot) := []

namespace Register

def enter (r : Register) (e : Entry) : Register where
  spots := (e.spot.element.id, e.spot) :: r.spots
  owners := match e.owner with
    | none => r.owners
    | some owner => (e.spot.element.id, owner) :: r.owners

def lookUp? (id : Json) (pairs : List (Json × Spot)) : Option Spot :=
  (pairs.find? fun p => p.1.sameKey id).map (·.2)

end Register

structure Snapshot where
  root : Element
  edges : List Edge
  base : Spot

/-- An inherited element and its qualified path, the element's own name last. -/
structure Target where
  spot : Spot
  path : List Json

namespace Snapshot

def rootSpot (root : Element) : Spot := ⟨[], root⟩

def rootEntry (root : Element) : Entry := ⟨rootSpot root, none⟩

/-- Every element with its owner. -/
def index (s : Snapshot) : List Entry := entriesFrom [rootEntry s.root]

def register (s : Snapshot) : Register := s.index.foldl .enter {}

def walk (s : Snapshot) : List Spot := walkFrom [rootSpot s.root]

/-- The first id that cannot be looked up. -/
def badId? (entries : List Entry) : Option Json :=
  (entries.map (·.spot.element.id)).find? fun id => !id.isKey

/-- A snapshot whose base is its root. Every id has to be one that can be
looked up. -/
def make (root : Element) (edges : List Edge) : Except Misuse Snapshot :=
  match badId? (entriesFrom [rootEntry root]) with
  | some id => .error (.notHashable id.typeName)
  | none => .ok ⟨root, edges, rootSpot root⟩

def withBase (s : Snapshot) (base : Spot) : Snapshot := { s with base }

/-- The ids that are met a second time, with the names they then stand on. -/
def repeats (seen : List Json) : List Entry → List Note
  | [] => []
  | e :: r =>
    let id := e.spot.element.id
    let rest := repeats (id :: seen) r
    if seen.any id.sameKey then
      .warning "umlgen.codegen.core.model"
        s!"Duplicate element id {id.display} ({e.spot.element.name.display})" :: rest
    else rest

def notes (s : Snapshot) : List Note := repeats [] s.index

def find? (s : Snapshot) (id : Json) : Option Spot := Register.lookUp? id s.register.spots

def find (s : Snapshot) (id : Json) : Except Misuse (Option Spot) :=
  id.asKey.map s.find?

def ownerOf? (s : Snapshot) (e : Element) : Option Spot :=
  Register.lookUp? e.id s.register.owners

/-- The owners of an element, nearest first, up to one at which to stop. There
is no answer if the owners do not end within the given number of steps. -/
def ownersUntil (s : Snapshot) (stop : Spot → Bool) : Nat → Element → Option (List Element)
  | 0, _ => none
  | n + 1, e =>
    match s.ownerOf? e with
    | none => some []
    | some o => if stop o then some [] else (s.ownersUntil stop n o.element).map (o.element :: ·)

/-- An owner that is met twice is followed by itself without end, so as many
steps as there are elements are enough. -/
def ownersWithin (s : Snapshot) (stop : Spot → Bool) (e : Element) :
    Except Misuse (List Element) :=
  match s.ownersUntil stop (s.index.length + 1) e with
  | some owners => .ok owners
  | none => .error .endlessOwners

/-- The owners of an element, outermost first. -/
def ancestors (s : Snapshot) (e : Element) : Except Misuse (List Element) :=
  (s.ownersWithin (fun _ => false) e).map List.reverse

/-- The names from just below the base down to an element. -/
def qualifiedPath (s : Snapshot) (e : Element) : Except Misuse (List Json) :=
  (s.ownersWithin (fun o => o.steps = s.base.steps) e).map fun owners =>
    owners.reverse.map Element.name ++ [e.name]

def textsFrom (position : Nat) : List Json → Except Misuse (List String)
  | [] => .ok []
  | v :: r => do
    let t ← v.asText position
    return t :: (← textsFrom (position + 1) r)

/-- Where an element is, for people to read. -/
def displayPath (s : Snapshot) (e : Element) : Except Misuse String := do
  let names := (← s.ancestors e).map Element.name ++ [e.name]
  return "/".intercalate (← textsFrom 0 names)

/-- The elements that an element inherits from, in the order of the edges.
An edge may be met again. -/
def targetsOf (s : Snapshot) (e : Element) :
    List Edge → Except Misuse (Except Emit.Fault (List Target))
  | [] => .ok (.ok [])
  | edge :: r =>
    if edge.source.equals e.id && edge.kind.inherits then do
      match ← s.find edge.target with
      | none => return .error (.unresolved e.name edge.target)
      | some spot =>
        let path ← s.qualifiedPath spot.element
        return (← s.targetsOf e r).map (⟨spot, path⟩ :: ·)
    else s.targetsOf e r

def targets (s : Snapshot) (e : Element) : Except Misuse (Except Emit.Fault (List Target)) :=
  s.targetsOf e s.edges

def packages (s : Snapshot) : List Spot := s.walk.filter (·.element.isPackage)

/-- The package that has an id, else the first one of that name. -/
def findPackage (s : Snapshot) (request : Json) : Except Misuse (Option Spot) := do
  match ← s.find request with
  | some spot =>
    if spot.element.isPackage then return some spot
    else return s.packages.find? (·.element.name.equals request)
  | none => return s.packages.find? (·.element.name.equals request)

/-- The package that is to be the base: the requested one or, without a
request, the first one below the root, if there is one. -/
def chosen (s : Snapshot) (request : Json) : Except Misuse (Except Emit.Fault (Option Spot)) :=
  if request.truthy then do
    match ← s.findPackage request with
    | some spot => return .ok (some spot)
    | none => return .error (.noPackage request)
  else .ok (.ok (s.packages.find? (·.steps ≠ [])))

def rebased (s : Snapshot) (base : Option Spot) : Snapshot :=
  match base with
  | some spot => s.withBase spot
  | none => s

/-- Makes the chosen package the base. -/
def select (s : Snapshot) (request : Json) : Except Misuse (Except Emit.Fault Snapshot) :=
  (s.chosen request).map fun r => r.map s.rebased

end Snapshot
end UmlPress
