import UmlPress.Model.Document

/-!
# The outline of a document

An outline lists the items of a document in document order: the top object, and
below each item the objects in its list of owned elements. Below the top an
inheritance is an edge and no element. Nothing is listed below an edge or below
an enumeration.
-/
namespace UmlPress.Document

/-- The list under a key; anything else counts as an empty one. -/
def listOf (es : Entries) (key : String) : List Json :=
  match Json.memberD es key .null with
  | .list xs => xs
  | _ => []

theorem sizeOf_lt_of_mem_listOf {es : Entries} {key : String} {x : Json} (h : x ∈ listOf es key) :
    sizeOf x < sizeOf es := by
  unfold listOf at h
  split at h
  · rename_i xs hxs
    have hx := List.sizeOf_lt_of_mem h
    have hlist : (key, Json.list xs) ∈ es := by
      unfold Json.memberD at hxs
      cases hg : Keyed.get? key es with
      | none =>
        rw [hg] at hxs
        cases hxs
      | some v =>
        rw [hg] at hxs
        cases hxs
        exact Keyed.mem_of_get? hg
    have he := List.sizeOf_lt_of_mem hlist
    simp only [Json.list.sizeOf_spec, Prod.mk.sizeOf_spec] at hx he
    omega
  · cases h

/-- An object at its place: its numbers in the lists of owned elements on the way
from the top, the last step first. -/
structure Item where
  steps : List Nat
  entries : Entries

def itemsBelow (steps : List Nat) (number : Nat) : List Json → List Item
  | [] => []
  | .object es :: r => ⟨number :: steps, es⟩ :: itemsBelow steps (number + 1) r
  | _ :: r => itemsBelow steps (number + 1) r

theorem mem_itemsBelow {steps : List Nat} {number : Nat} {xs : List Json} {i : Item}
    (h : i ∈ itemsBelow steps number xs) : .object i.entries ∈ xs ∧ i.steps ≠ [] := by
  induction xs generalizing number with
  | nil => cases h
  | cons x r ih =>
    cases x with
    | object es =>
      rcases List.mem_cons.1 h with rfl | h
      · exact ⟨List.mem_cons_self, List.cons_ne_nil _ _⟩
      · exact ⟨List.mem_cons_of_mem _ (ih h).1, (ih h).2⟩
    | _ => exact ⟨List.mem_cons_of_mem _ (ih h).1, (ih h).2⟩

namespace Item

def top (es : Entries) : Item := ⟨[], es⟩

def type (i : Item) : Json := Json.memberD i.entries "_type" (.text "")

/-- What an item refers to under a key: by the reference in an object, by the text of
any other value, or by an empty one. -/
def referent (i : Item) (key : String) : Json :=
  match Json.memberD i.entries key .null with
  | .object es => Json.memberD es "$ref" (.text "")
  | v => if v.truthy then .text v.display else .text ""

def edgeTypes : List (String × EdgeKind) :=
  [("UMLGeneralization", .generalization), ("UMLInterfaceRealization", .interfaceRealization)]

def edge? (i : Item) : Option Edge :=
  if i.steps = [] then none
  else (edgeTypes.find? fun t => i.type.equals (.text t.1)).map fun t =>
    ⟨i.referent "source", i.referent "target", t.2⟩

def isElement (i : Item) : Bool := i.edge?.isNone

def owned (i : Item) : List Item :=
  if i.isElement && !i.type.equals (.text "UMLEnumeration") then
    itemsBelow i.steps 0 (listOf i.entries "ownedElements")
  else []

theorem sizeOf_entries_lt {i c : Item} (h : c ∈ i.owned) : sizeOf c.entries < sizeOf i.entries := by
  unfold owned at h
  split at h
  · have hlt := sizeOf_lt_of_mem_listOf (mem_itemsBelow h).1
    rw [Json.object.sizeOf_spec] at hlt
    omega
  · cases h

def outline (i : Item) : List Item := i :: i.owned.attach.flatMap fun c => outline c.1
termination_by sizeOf i.entries
decreasing_by exact sizeOf_entries_lt c.2

theorem outline_eq (i : Item) : i.outline = i :: i.owned.flatMap outline := by
  rw [outline, List.flatMap_subtype (g := outline) (by simp), List.unattach_attach]

/-- What holds of an item if it holds of all items just below it holds of every
item. -/
@[elab_as_elim]
theorem inductionOn {P : Item → Prop} (step : ∀ i, (∀ c ∈ i.owned, P c) → P i) (i : Item) : P i :=
  step i fun c _ => inductionOn step c
termination_by sizeOf i.entries
decreasing_by exact sizeOf_entries_lt ‹_›

/-- Nothing is listed below an edge. -/
theorem outline_of_edge {i : Item} {edge : Edge} (h : i.edge? = some edge) : i.outline = [i] := by
  rw [outline_eq, owned, isElement, h]
  rfl

def hasId (i : Item) : Bool := (Json.memberD i.entries "_id" .null).truthy

end Item

def generatedId (number : Nat) : Json := .text s!"_generated_{number}"

/-- The ids of items in their order. Those without a written one are numbered. -/
def idsFrom (number : Nat) : List Item → List Json
  | [] => []
  | i :: r =>
    if i.hasId then Json.memberD i.entries "_id" .null :: idsFrom number r
    else generatedId (number + 1) :: idsFrom (number + 1) r

theorem idsFrom_append (number : Nat) (xs ys : List Item) : idsFrom number (xs ++ ys) =
    idsFrom number xs ++ idsFrom (number + xs.countP fun i => !i.hasId) ys := by
  induction xs generalizing number with
  | nil => rfl
  | cons i r ih =>
    cases h : i.hasId
    · simp [idsFrom, h, ih, Nat.add_assoc, Nat.add_comm]
    · simp [idsFrom, h, ih]

end UmlPress.Document
