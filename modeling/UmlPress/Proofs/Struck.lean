import UmlPress.Proofs.Alike

/-!
# Struck elements

In place of an element that is struck out there stands one that nothing is
generated for, with its id, its name and what it owns. Whatever is struck out of
a model, an id finds the same place, and an element has the same owners: the model
looks like the one before.
-/
namespace UmlPress

/-- The documentation and the type of what stands in for an element, for the places
at which an element is struck out. -/
abbrev Mask := List Nat → Option (Json × Json)

namespace Element

mutual

def strike (mask : Mask) (steps : List Nat) : Element → Element
  | .node facts shape owned =>
    match mask steps with
    | none => .node facts shape (strikeAll mask steps 0 owned)
    | some (doc, type) => .node { facts with doc } (.other type) (strikeAll mask steps 0 owned)

def strikeAll (mask : Mask) (steps : List Nat) (number : Nat) : List Element → List Element
  | [] => []
  | e :: r => strike mask (number :: steps) e :: strikeAll mask steps (number + 1) r

end

variable (mask : Mask) (steps : List Nat) (e : Element)

theorem strike_of_none {facts : Facts} {shape : Shape} {owned : List Element}
    (h : mask steps = none) : strike mask steps (.node facts shape owned) =
      .node facts shape (strikeAll mask steps 0 owned) := by
  rw [strike, h]

theorem strike_of_isSome (h : (mask steps).isSome = true) :
    ∃ facts type owned, strike mask steps e = .node facts (.other type) owned := by
  obtain ⟨⟨doc, type⟩, hmask⟩ := Option.isSome_iff_exists.1 h
  obtain ⟨facts, shape, owned⟩ := e
  exact ⟨_, _, _, by rw [strike, hmask]⟩

@[simp] theorem id_strike : (strike mask steps e).id = e.id := by
  obtain ⟨facts, shape, owned⟩ := e
  rw [strike]
  split <;> rfl

@[simp] theorem name_strike : (strike mask steps e).name = e.name := by
  obtain ⟨facts, shape, owned⟩ := e
  rw [strike]
  split <;> rfl

theorem owned_strike : (strike mask steps e).owned = strikeAll mask steps 0 e.owned := by
  obtain ⟨facts, shape, owned⟩ := e
  rw [strike]
  split <;> rfl

end Element

variable (mask : Mask)

namespace Spot

def strike (s : Spot) : Spot := ⟨s.steps, s.element.strike mask s.steps⟩

theorem spotsBelow_strikeAll (steps : List Nat) (number : Nat) (es : List Element) :
    spotsBelow steps number (Element.strikeAll mask steps number es) =
      (spotsBelow steps number es).map (strike mask) := by
  induction es generalizing number with
  | nil => rfl
  | cons e r ih =>
    rw [Element.strikeAll, spotsBelow, spotsBelow, ih]
    rfl

theorem owned_strike (s : Spot) : (s.strike mask).owned = s.owned.map (strike mask) := by
  rw [owned, strike, Element.owned_strike, spotsBelow_strikeAll]
  rfl

end Spot

namespace Entry

def strike (x : Entry) : Entry := ⟨x.spot.strike mask, x.owner.map (Spot.strike mask)⟩

theorem owned_strike (x : Entry) : (x.strike mask).owned = x.owned.map (strike mask) := by
  rw [owned, owned, strike, Spot.owned_strike, List.map_map, List.map_map]
  rfl

end Entry

theorem entriesFrom_strike (stack : List Entry) :
    entriesFrom (stack.map (Entry.strike mask)) = (entriesFrom stack).map (Entry.strike mask) := by
  induction stack using entriesFrom.induct with
  | case1 => simp [entriesFrom]
  | case2 e stack ih =>
    rw [List.map_cons, entriesFrom, entriesFrom, Entry.owned_strike, ← List.map_append, ih,
      List.map_cons]

namespace Snapshot

def strike (s : Snapshot) : Snapshot :=
  ⟨s.root.strike mask [], s.edges, s.base.strike mask⟩

variable {mask} {s : Snapshot} {e e' : Element}

theorem index_strike : (s.strike mask).index = s.index.map (Entry.strike mask) :=
  entriesFrom_strike mask [rootEntry s.root]

theorem holder?_strike (id : Json) :
    (s.strike mask).holder? id = (s.holder? id).map (Entry.strike mask) := by
  rw [holder?, holder?, index_strike, ← List.map_reverse, List.find?_map]
  congr 2
  funext x
  exact congrArg (Json.sameKey · id) (Element.id_strike _ _ _)

theorem ownerOf?_strike (hid : e'.id = e.id) :
    (s.strike mask).ownerOf? e' = (s.ownerOf? e).map (Spot.strike mask) := by
  rw [ownerOf?_eq, ownerOf?_eq, hid, holder?_strike, Option.bind_map, Option.map_bind]
  rfl

/-- What is struck out changes no answer that the model gives. -/
theorem like_strike (mask : Mask) (s : Snapshot) : s.Like (s.strike mask) := by
  have halike (found : Option Spot) :
      Option.Rel (s.Alike (s.strike mask)) found (found.map (Spot.strike mask)) := by
    cases found with
    | none => exact .none
    | some o => exact .some ⟨Element.id_strike _ _ _, Element.name_strike _ _ _, .rfl⟩
  refine ⟨by rw [index_strike, List.length_map], rfl, fun id => ?_, fun hid => ?_⟩
  · rw [find?_eq, find?_eq, holder?_strike, Option.map_map]
    have hfound := halike ((s.holder? id).map (·.spot))
    rwa [Option.map_map] at hfound
  · rw [ownerOf?_strike hid]
    exact halike _

end Snapshot
end UmlPress
