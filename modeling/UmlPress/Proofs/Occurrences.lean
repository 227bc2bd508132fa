import UmlPress.Proofs.Keys
import UmlPress.Proofs.Lineage
import UmlPress.Proofs.Reordered

/-!
# Which occurrence an id finds

The same id may stand on several elements. It finds the place where it stands last in
document order, and the owner that is looked up for what was found is the owner of just that
place: the place is the last one of its id for both look-ups, and only the root is entered
without an owner.
-/
namespace UmlPress.Snapshot
variable {s : Snapshot} {x : Entry} {t o : Spot} {id : Json}

def StandsLast (id : Json) (t : Spot) (places : List Spot) : Prop :=
  ∃ earlier later, places = earlier ++ t :: later ∧ t.element.id.sameKey id = true ∧
    ∀ u ∈ later, u.element.id.sameKey id = false

theorem StandsLast.mem {places : List Spot} (h : StandsLast id t places) : t ∈ places := by
  obtain ⟨earlier, later, rfl, -, -⟩ := h
  exact List.mem_append_right _ List.mem_cons_self

theorem find?_reverse_eq_some_iff {places : List Spot} :
    places.reverse.find? (·.element.id.sameKey id) = some t ↔ StandsLast id t places := by
  rw [List.find?_eq_some_iff_append]
  constructor
  · rintro ⟨hkey, later, earlier, hsplit, hlater⟩
    refine ⟨earlier.reverse, later.reverse, ?_, hkey, fun u hu => ?_⟩
    · rw [← places.reverse_reverse, hsplit]
      simp
    · simpa using hlater u (List.mem_reverse.1 hu)
  · rintro ⟨earlier, later, rfl, hkey, hlater⟩
    refine ⟨hkey, later.reverse, earlier.reverse, by simp, fun u hu => ?_⟩
    simp [hlater u (List.mem_reverse.1 hu)]

/-- An id finds what stands last of the tree. -/
theorem find?_eq_find?_tree (s : Snapshot) (id : Json) :
    s.find? id = (rootSpot s.root).tree.reverse.find? (·.element.id.sameKey id) := by
  rw [find?_eq, holder?, ← index_spots, ← List.map_reverse, List.find?_map]
  rfl

theorem find_eq_ok_iff {found : Option Spot} :
    s.find id = .ok found ↔ id.isKey = true ∧ s.find? id = found := by
  rw [find, Json.asKey]
  cases id.isKey <;> simp [Except.map]

/-- Only ids that can be looked up stand in the tree of a snapshot. -/
theorem isKey_of_mem_tree (hh : s.Hashable) (ht : t ∈ (rootSpot s.root).tree) :
    t.element.id.isKey = true := by
  rw [← index_spots] at ht
  obtain ⟨x, hx, rfl⟩ := List.mem_map.1 ht
  exact hh x hx

theorem find_eq_some_iff (hh : s.Hashable) :
    s.find id = .ok (some t) ↔ StandsLast id t (rootSpot s.root).tree := by
  rw [find_eq_ok_iff, find?_eq_find?_tree, find?_reverse_eq_some_iff, and_iff_right_iff_imp]
  intro h
  have hmem := h.mem
  obtain ⟨-, -, -, hkey, -⟩ := h
  exact Json.isKey_of_sameKey (isKey_of_mem_tree hh hmem) hkey

theorem find_eq_none_iff : s.find id = .ok none ↔
    id.isKey = true ∧ ∀ t ∈ (rootSpot s.root).tree, t.element.id.sameKey id = false := by
  rw [find_eq_ok_iff, find?_eq_find?_tree, List.find?_eq_none]
  simp

/-- Two ids that are the same key find the same entry. -/
theorem holder?_congr (hh : s.Hashable) {id' : Json} (hid : id.isKey = true)
    (hid' : id'.isKey = true) (h : id.sameKey id' = true) : s.holder? id = s.holder? id' := by
  have hsame : ∀ x ∈ s.index.reverse,
      x.spot.element.id.sameKey id = x.spot.element.id.sameKey id' := by
    intro x hx
    have hx := hh x (List.mem_reverse.1 hx)
    rw [Json.sameKey_comm hx hid, Json.sameKey_comm hx hid', Json.sameKey_congr hid hid' hx h]
  rw [holder?, holder?, ← List.head?_filter, ← List.head?_filter, List.filter_congr hsame]

/-- The entry that an id finds is found again by the element's own id, so the owner that is
looked up is the entry's. -/
theorem exists_entry_of_find (hh : s.Hashable) (h : s.find id = .ok (some t)) :
    ∃ x ∈ s.index, x.spot = t ∧ s.ownerOf? t.element = x.owner := by
  obtain ⟨hid, hfind⟩ := find_eq_ok_iff.1 h
  rw [find?_eq] at hfind
  obtain ⟨x, hx, rfl⟩ := Option.map_eq_some_iff.1 hfind
  obtain ⟨hmem, hkey, -⟩ := holder?_eq_some hx
  refine ⟨x, hmem, rfl, ?_⟩
  rw [ownerOf?_eq, holder?_congr hh (hh x hmem) hid hkey, hx]
  rfl

theorem owner_eq_some_iff (hx : x ∈ s.index) :
    x.owner = some o ↔ o ∈ (rootSpot s.root).tree ∧ x.spot ∈ o.owned := by
  constructor
  · intro ho
    obtain ⟨y, hy, rfl, howned⟩ := exists_owner hx ho
    exact ⟨mem_tree_of_mem_index hy, howned⟩
  · rintro ⟨ho, howned⟩
    rw [← index_spots] at ho
    obtain ⟨y, hy, rfl⟩ := List.mem_map.1 ho
    have hentry : ⟨x.spot, some y.spot⟩ ∈ y.owned := Entry.mem_owned.2 ⟨howned, rfl⟩
    rw [eq_of_mem_index hx (mem_index_of_owned hy hentry) rfl]

theorem owner_eq_none_iff (hx : x ∈ s.index) : x.owner = none ↔ x.spot = rootSpot s.root := by
  constructor
  · intro ho
    rcases owner_of_mem_index hx with rfl | ⟨y, -, hxy⟩
    · rfl
    · rw [(Entry.mem_owned.1 hxy).2] at ho
      cases ho
  · intro heq
    rw [eq_of_mem_index hx s.rootEntry_mem_index (congrArg Spot.steps heq)]
    rfl

/-- An id finds the last place in document order that has it, and nothing if there is none. What
is looked up as the owner of what was found is the owner of that place, and nothing for the root
alone. -/
theorem find_last_occurrence (hh : s.Hashable) (id : Json) :
    let root := rootSpot s.root
    (∀ t, s.find id = .ok (some t) ↔ StandsLast id t root.tree) ∧
    (s.find id = .ok none ↔
      id.isKey = true ∧ ∀ t ∈ root.tree, t.element.id.sameKey id = false) ∧
    ∀ t, s.find id = .ok (some t) →
      (∀ o, s.ownerOf? t.element = some o ↔ o ∈ root.tree ∧ t ∈ o.owned) ∧
      (s.ownerOf? t.element = none ↔ t = root) := by
  intro root
  refine ⟨fun t => find_eq_some_iff hh, find_eq_none_iff, fun t ht => ?_⟩
  obtain ⟨x, hx, rfl, howner⟩ := exists_entry_of_find hh ht
  rw [howner]
  exact ⟨fun o => owner_eq_some_iff hx, owner_eq_none_iff hx⟩

/-! The id of the root stands again below a package, and that of the package on a class after
it. -/

def lodger : Element := .node ⟨.text "r", .text "Lodger", .text ""⟩ (.classifier false [] []) []

def wing : Element := .node ⟨.text "a", .text "wing", .text ""⟩ .package [lodger]

def annex : Element := .node ⟨.text "a", .text "Annex", .text ""⟩ (.classifier false [] []) []

def lodge : Snapshot :=
  let root : Element := .node ⟨.text "r", .text "lodge", .text ""⟩ .package [wing, annex]
  ⟨root, [], rootSpot root⟩

theorem tree_lodge : (rootSpot lodge.root).tree =
    [⟨[], lodge.root⟩, ⟨[0], wing⟩, ⟨[0, 0], lodger⟩, ⟨[1], annex⟩] := rfl

theorem hashable_lodge : lodge.Hashable := by
  unfold Hashable
  decide +kernel

theorem find_last_occurrence_lodge :
    lodge.find (.text "r") = .ok (some ⟨[0, 0], lodger⟩) ∧
    lodge.ownerOf? lodger = some ⟨[0], wing⟩ ∧
    lodge.find (.text "a") = .ok (some ⟨[1], annex⟩) ∧
    lodge.ownerOf? annex = some ⟨[], lodge.root⟩ ∧
    lodge.find (.text "b") = .ok none := by
  obtain ⟨hr, -, hrOwner⟩ := find_last_occurrence hashable_lodge (.text "r")
  obtain ⟨ha, -, haOwner⟩ := find_last_occurrence hashable_lodge (.text "a")
  obtain ⟨-, hb, -⟩ := find_last_occurrence hashable_lodge (.text "b")
  have hlodger := (hr ⟨[0, 0], lodger⟩).2
    ⟨[⟨[], lodge.root⟩, ⟨[0], wing⟩], [⟨[1], annex⟩], tree_lodge, by decide, by decide⟩
  have hannex := (ha ⟨[1], annex⟩).2
    ⟨[⟨[], lodge.root⟩, ⟨[0], wing⟩, ⟨[0, 0], lodger⟩], [], tree_lodge, by decide, by decide⟩
  have hwing : (⟨[0], wing⟩ : Spot) ∈ (rootSpot lodge.root).tree := by simp [tree_lodge]
  have hroot : (⟨[], lodge.root⟩ : Spot) ∈ (rootSpot lodge.root).tree := by simp [tree_lodge]
  refine ⟨hlodger, ((hrOwner _ hlodger).1 _).2 ⟨hwing, List.mem_singleton_self _⟩, hannex,
    ((haOwner _ hannex).1 _).2 ⟨hroot, ?_⟩, hb.2 ⟨rfl, by decide⟩⟩
  exact List.mem_cons_of_mem _ (List.mem_singleton_self _)

end UmlPress.Snapshot
