import UmlPress.Proofs.Ancestry
import UmlPress.Proofs.Conversion

/-!
# Ids of a document

The ids in a snapshot that is read are the written ones, the numbered ones and,
if a package is put around the top element, the top element's id once more. They
differ if the top element is a package, the written ids differ and no written id
is one of the numbers that are given out. Then an id finds its element, and the
owners of every element end at the root.
-/
namespace UmlPress.Document

def writtenIds (items : List Item) : List Json :=
  (items.filter (·.hasId)).map fun i => member i.entries "_id"

/-- How many of the items have no written id. -/
def missingIds (items : List Item) : Nat := items.countP fun i => !i.hasId

theorem generatedId_injective : Function.Injective generatedId := by
  intro a b h
  have hdigits : Nat.toDigits 10 a = Nat.toDigits 10 b := by
    simpa using congrArg String.toList (Json.text.inj h)
  simpa using congrArg (fun digits => Nat.ofDigitChars 10 digits 0) hdigits

/-- Apart from their order, the ids are the written ones and the numbered ones. -/
theorem perm_idsFrom (number : Nat) (items : List Item) : (idsFrom number items).Perm
    (writtenIds items ++
      (List.range (missingIds items)).map fun k => generatedId (number + k + 1)) := by
  unfold writtenIds missingIds
  induction items generalizing number with
  | nil => exact .nil
  | cons i r ih =>
    rw [idsFrom]
    cases h : i.hasId with
    | true =>
      rw [List.filter_cons_of_pos h, List.countP_cons_of_neg (by simp [h])]
      exact (ih number).cons _
    | false =>
      rw [List.filter_cons_of_neg (by simp [h]), List.countP_cons_of_pos (by simp [h]),
        List.range_succ_eq_map, List.map_cons, List.map_map]
      refine .trans ((ih (number + 1)).cons _) (.trans List.perm_middle.symm ?_)
      simp [Function.comp_def, Nat.add_assoc, Nat.add_comm 1]

theorem isKey_generatedId (k : Nat) : (generatedId k).isKey = true := rfl

/-- The ids differ if the written ones do and none of them is given out. -/
theorem nodup_idsFrom {items : List Item}
    (hkeys : ∀ id ∈ writtenIds items, id.isKey = true) :
    ((idsFrom 0 items).map Json.mark?).Nodup ↔
      (writtenIds items).Pairwise (fun a b => a.sameKey b = false) ∧
        ∀ id ∈ writtenIds items, ∀ k, 1 ≤ k → k ≤ missingIds items →
          id.sameKey (generatedId k) = false := by
  have hnumbered : ((List.range (missingIds items)).map fun k =>
      (generatedId (k + 1)).mark?).Nodup := by
    refine List.nodup_range.map fun a b h => ?_
    have hids : generatedId (a + 1) = generatedId (b + 1) := by
      simpa [generatedId, Json.mark?] using h
    exact Nat.succ.inj (generatedId_injective hids)
  have hapart {id : Json} (hid : id ∈ writtenIds items) (k : Nat) :
      id.mark? ≠ (generatedId k).mark? ↔ id.sameKey (generatedId k) = false := by
    rw [ne_eq, ← Json.sameKey_iff (hkeys id hid) (isKey_generatedId k), Bool.not_eq_true]
  rw [((perm_idsFrom 0 items).map _).nodup_iff, List.map_append, List.map_map,
    List.nodup_append, Json.nodup_marks hkeys]
  simp only [Nat.zero_add, Function.comp_def]
  constructor
  · rintro ⟨hwritten, -, hdisjoint⟩
    refine ⟨hwritten, fun id hid k hk hle => (hapart hid k).1 ?_⟩
    refine hdisjoint _ (List.mem_map_of_mem hid) _ (List.mem_map.2 ⟨k - 1, ?_, ?_⟩)
    · rw [List.mem_range]
      omega
    · rw [Nat.sub_add_cancel hk]
  · rintro ⟨hwritten, hfree⟩
    refine ⟨hwritten, hnumbered, fun m hm m' hm' => ?_⟩
    obtain ⟨id, hid, rfl⟩ := List.mem_map.1 hm
    obtain ⟨k, hk, rfl⟩ := List.mem_map.1 hm'
    rw [List.mem_range] at hk
    exact (hapart hid _).2 (hfree id hid (k + 1) (Nat.succ_pos k) hk)

/-- An element is a package if its type says so. -/
theorem Shows.isPackage_iff {names : List (Json × Json)} {es : Entries} {e : Element}
    (h : Shows names es e) :
    e.isPackage = true ↔ ∃ type ∈ packageTypes, typeOf es = .text type := by
  have hshape : ShowsShape names (typeOf es) es e.shape := h.shape
  unfold Element.isPackage
  generalize e.shape = shape at hshape ⊢
  have hno {type : String} (htype : typeOf es = .text type) (hnot : type ∉ packageTypes) :
      ¬ ∃ t ∈ packageTypes, typeOf es = .text t := by
    rintro ⟨t, ht, hes⟩
    rw [htype] at hes
    cases hes
    exact hnot ht
  cases hshape with
  | package htype hmem => simpa using ⟨_, hmem, htype⟩
  | @classifier isInterface _ _ htype =>
    simpa using hno htype (by cases isInterface <;> decide)
  | enumeration htype => simpa using hno htype (by decide)
  | other hother =>
    simpa using fun type hmem => hother type (List.mem_append_left _ hmem)

end UmlPress.Document

namespace UmlPress.Snapshot
variable {s : Snapshot}

/-- All ids differ if their marks do. -/
theorem distinct_iff (hh : s.Hashable) :
    s.Distinct ↔ ((s.index.map (·.spot.element.id)).map Json.mark?).Nodup := by
  have hsteps := s.nodup_index
  rw [List.Nodup, List.pairwise_map] at hsteps
  have hmarks {x y : Entry} (hx : x ∈ s.index) (hy : y ∈ s.index) :
      x.spot.element.id.sameKey y.spot.element.id = true ↔
        x.spot.element.id.mark? = y.spot.element.id.mark? :=
    Json.sameKey_iff (hh x hx) (hh y hy)
  rw [List.map_map]
  constructor
  · intro hd
    rw [List.Nodup, List.pairwise_map]
    refine hsteps.imp_of_mem fun hx hy hne heq => hne ?_
    exact hd _ hx _ hy ((hmarks hx hy).2 heq)
  · intro hnodup x hx y hy hsame
    rw [List.inj_on_of_nodup_map hnodup hx hy ((hmarks hx hy).1 hsame)]

/-- If all ids differ, the owners of every element end at the root. -/
theorem Follows.ends_at_root (hh : s.Hashable) (hd : s.Distinct) {x : Entry} {chain : List Spot}
    (hx : x ∈ s.index) (h : s.Follows x.spot.element chain) :
    (x.spot :: chain).getLast? = some (rootSpot s.root) := by
  induction chain generalizing x with
  | nil =>
    rcases owner_of_mem_index hx with rfl | ⟨y, hy, howned⟩
    · rfl
    · cases h with
      | done hnone => simp [ownerOf?_of_mem hh hd hx, (Entry.mem_owned.1 howned).2] at hnone
  | cons o chain ih =>
    cases h with
    | step hsome hrest =>
      rw [ownerOf?_of_mem hh hd hx] at hsome
      obtain ⟨z, hz, rfl, -⟩ := exists_owner hx hsome
      rw [List.getLast?_cons_cons]
      exact ih hz hrest

end UmlPress.Snapshot

namespace UmlPress.Document

def elementsOf (document : Entries) : List Item := (Item.top document).outline.filter (·.isElement)

/-- The ids in a snapshot that is read: those of the elements listed, below the
top element's id once more if a package is put around it. -/
theorem exists_ids {es : Entries} {s : Snapshot} (h : read (.object es) = .ok s) :
    s.Hashable ∧ ∃ rest, idsFrom 0 (elementsOf es) = s.root.id :: rest ∧
      ((∃ type ∈ packageTypes, typeOf es = .text type) ∧
          s.index.map (·.spot.element.id) = idsFrom 0 (elementsOf es) ∨
        (¬ ∃ type ∈ packageTypes, typeOf es = .text type) ∧
          s.index.map (·.spot.element.id) = s.root.id :: idsFrom 0 (elementsOf es)) := by
  obtain ⟨es', names, top, pairs, progress, hes, -, hs, hh, hindex, hagrees⟩ := exists_agrees h
  cases hes
  have hids : top.tree.map (·.element.id) = idsFrom 0 (elementsOf es) := by
    rw [hagrees.ids, hagrees.elements]
    rfl
  have htype := (hagrees.shows _ List.mem_cons_self).isPackage_iff
  have hroot : s.root.id = top.element.id := by
    rw [hs, wrapped]
    split <;> rfl
  have hall := congrArg (List.map fun t : Spot => t.element.id) hindex
  rw [List.map_map, List.map_append, hids] at hall
  refine ⟨hh, (top.owned.flatMap Spot.tree).map (·.element.id), ?_, ?_⟩
  · rw [← hids, Spot.tree_eq, List.map_cons, hroot]
  · cases hpackage : top.element.isPackage with
    | true =>
      rw [hpackage] at hall
      exact .inl ⟨htype.1 hpackage, hall⟩
    | false =>
      rw [hpackage] at hall
      exact .inr ⟨fun htop => by simp [htype.2 htop] at hpackage, hall⟩

/-- All ids in a snapshot that is read differ just if the top element is a
package, the written ids differ and no written id is one of the numbers that are
given out. If so, each id finds its element, and all owners end at the root. -/
theorem read_distinct_iff {es : Entries} {s : Snapshot} (h : read (.object es) = .ok s) :
    (s.Distinct ↔ (∃ type ∈ packageTypes, typeOf es = .text type) ∧
      (writtenIds (elementsOf es)).Pairwise (fun a b => a.sameKey b = false) ∧
      ∀ id ∈ writtenIds (elementsOf es), ∀ k, 1 ≤ k → k ≤ missingIds (elementsOf es) →
        id.sameKey (generatedId k) = false) ∧
    (s.Distinct → ∀ x ∈ s.index, s.find? x.spot.element.id = some x.spot ∧
      ∃ chain, s.Follows x.spot.element chain ∧
        (x.spot :: chain).getLast? = some (Snapshot.rootSpot s.root)) := by
  obtain ⟨hh, rest, hfirst, hindex⟩ := exists_ids h
  constructor
  · rw [Snapshot.distinct_iff hh]
    rcases hindex with ⟨hpackage, hindex⟩ | ⟨hpackage, hindex⟩
    · have hkeys : ∀ id ∈ writtenIds (elementsOf es), id.isKey = true := by
        intro id hid
        have hmem := (perm_idsFrom 0 (elementsOf es)).mem_iff.2 (List.mem_append_left _ hid)
        rw [← hindex] at hmem
        obtain ⟨x, hx, rfl⟩ := List.mem_map.1 hmem
        exact hh x hx
      rw [hindex, nodup_idsFrom hkeys, and_iff_right hpackage]
    · -- The package that is put around has the id of the top element.
      rw [hindex, hfirst]
      simp [hpackage]
  · intro hd x hx
    obtain ⟨chain, hchain, -⟩ := Snapshot.exists_follows hh hd.ownersDiffer x.spot.element
    refine ⟨?_, chain, hchain, hchain.ends_at_root hh hd hx⟩
    rw [Snapshot.find?_eq, Snapshot.holder?_of_mem hh hd hx]
    rfl

def depot (id : String) : Entries := [("_type", .text "Project"), ("_id", .text id),
  ("ownedElements", .list [.object [("_type", .text "UMLClass"), ("name", .text "A")]])]

theorem elementsOf_depot (id : String) : elementsOf (depot id) =
    [⟨[], depot id⟩, ⟨[0], [("_type", .text "UMLClass"), ("name", .text "A")]⟩] := by
  simp [elementsOf, Item.outline_eq, Item.owned, Item.isElement, Item.edge?, Item.edgeTypes,
    Item.top, depot, Item.type, Json.memberD, Keyed.get?, Json.equals, listOf, itemsBelow]

theorem exists_read_depot (id : String)
    (h : (read (.object (depot id))).toOption.isSome = true) :
    ∃ s, read (.object (depot id)) = .ok s := by
  cases hread : read (.object (depot id)) with
  | error f => simp [hread, Except.toOption] at h
  | ok s => exact ⟨s, rfl⟩

theorem read_distinct_iff_depot : ∃ s, read (.object (depot "d")) = .ok s ∧ s.Distinct ∧
    ∀ x ∈ s.index, s.find? x.spot.element.id = some x.spot := by
  obtain ⟨s, hs⟩ := exists_read_depot "d" (by decide +kernel)
  obtain ⟨hiff, hfinds⟩ := read_distinct_iff hs
  have hd : s.Distinct := by
    refine hiff.2 ⟨⟨"Project", by decide, rfl⟩, ?_⟩
    rw [elementsOf_depot]
    constructor
    · exact List.pairwise_singleton _ _
    · intro id hid k hk hle
      obtain rfl := List.mem_singleton.1 hid
      obtain rfl : k = 1 := Nat.le_antisymm hle hk
      decide
  exact ⟨s, hs, hd, fun x hx => (hfinds hd x hx).1⟩

/-- A written id may be a number that is given out. Then the id of the root finds
the class, and the root has an owner. -/
theorem given_out_id_taken :
    (writtenIds (elementsOf (depot "_generated_1"))).Pairwise (fun a b => a.sameKey b = false) ∧
    ∃ s, read (.object (depot "_generated_1")) = .ok s ∧ ¬ s.Distinct ∧
      (s.find? s.root.id).map (·.steps) = some [0] ∧
      (s.ownerOf? s.root).map (·.steps) = some [] := by
  refine ⟨by rw [elementsOf_depot]; exact List.pairwise_singleton _ _, ?_⟩
  have hlook : (read (.object (depot "_generated_1"))).toOption.map (fun s =>
      ((s.find? s.root.id).map (·.steps), (s.ownerOf? s.root).map (·.steps))) =
      some (some [0], some []) := by decide +kernel
  obtain ⟨s, hs⟩ := exists_read_depot "_generated_1" (by decide +kernel)
  rw [hs] at hlook
  obtain ⟨hfind, howner⟩ := Prod.mk.inj (Option.some.inj hlook)
  refine ⟨s, hs, fun hd => ?_, hfind, howner⟩
  have hroot : s.holder? s.root.id = some (Snapshot.rootEntry s.root) :=
    Snapshot.holder?_of_mem (exists_ids hs).1 hd s.rootEntry_mem_index
  rw [Snapshot.find?_eq, hroot] at hfind
  cases hfind

end UmlPress.Document
