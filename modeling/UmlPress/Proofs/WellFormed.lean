import UmlPress.Proofs.Owners
import UmlPress.Proofs.Pages

/-!
# Well-formed models

A model is well-formed if its names are texts, its ids can be looked up and no
element has the id of one of its owners. Every element of it has a place to be shown
at, and what it inherits from can be looked up.
-/
namespace UmlPress

namespace Snapshot

structure WellFormed (s : Snapshot) : Prop where
  typed : s.root.isTyped = true
  targets : ∀ edge ∈ s.edges, edge.target.isKey = true
  hashable : s.Hashable
  ownersDiffer : s.OwnersDiffer
  base : ∃ x ∈ s.index, x.spot = s.base

variable {s : Snapshot}

theorem isTyped_of_mem_entriesFrom {stack : List Entry}
    (h : ∀ x ∈ stack, x.spot.element.isTyped = true) :
    ∀ x ∈ entriesFrom stack, x.spot.element.isTyped = true := by
  induction stack using entriesFrom.induct with
  | case1 => simp [entriesFrom]
  | case2 e stack ih =>
    rw [List.forall_mem_cons] at h
    rw [entriesFrom, List.forall_mem_cons]
    refine ⟨h.1, ih ?_⟩
    rw [List.forall_mem_append]
    refine ⟨fun x hx => ?_, h.2⟩
    have hmem := (Spot.mem_spotsBelow (Entry.mem_owned.1 hx).1).1
    exact (Element.isTyped_iff.1 h.1).2.2.2 _ hmem

theorem isTyped_of_mem_index (h : s.root.isTyped = true) {x : Entry} (hx : x ∈ s.index) :
    x.spot.element.isTyped = true := by
  refine isTyped_of_mem_entriesFrom ?_ x hx
  simpa [rootEntry, rootSpot] using h

/-- Owners stand in the index. -/
theorem mem_index_of_mem_ownersUntil {stop : Spot → Bool} {n : Nat} {e : Element}
    {owners : List Element} (h : s.ownersUntil stop n e = some owners) :
    ∀ o ∈ owners, ∃ x ∈ s.index, x.spot.element = o := by
  induction n generalizing e owners with
  | zero => cases h
  | succ n ih =>
    rw [ownersUntil, ownerOf?_eq] at h
    cases hx : s.holder? e.id with
    | none =>
      simp only [hx, Option.bind_none, Option.some.injEq] at h
      simp [← h]
    | some x =>
      cases ho : x.owner with
      | none =>
        simp only [hx, ho, Option.bind_some, Option.some.injEq] at h
        simp [← h]
      | some o =>
        simp only [hx, ho, Option.bind_some] at h
        split at h
        · simp [← Option.some.inj h]
        · obtain ⟨rest, hrest, rfl⟩ := Option.map_eq_some_iff.1 h
          obtain ⟨z, hz, hzo, -⟩ := exists_owner (holder?_eq_some hx).1 ho
          exact List.forall_mem_cons.2 ⟨⟨z, hz, by rw [hzo]⟩, ih hrest⟩

theorem exists_texts {names : List Json} (h : ∀ v ∈ names, v.isText = true) :
    ∃ texts : List String, names = texts.map .text := by
  induction names with
  | nil => exact ⟨[], rfl⟩
  | cons v names ih =>
    rw [List.forall_mem_cons] at h
    obtain ⟨t, rfl⟩ := Json.eq_of_isText h.1
    obtain ⟨texts, rfl⟩ := ih h.2
    exact ⟨t :: texts, rfl⟩

/-- Where the owners of elements end and all names are texts, every element has a place
to be shown at. -/
theorem exists_displayPath_of_named (hh : s.Hashable) (ho : s.OwnersDiffer)
    (hnamed : ∀ x ∈ s.index, x.spot.element.name.isText = true) {e : Element}
    (he : e.name.isText = true) : ∃ place, s.displayPath e = .ok place := by
  obtain ⟨owners, howners⟩ := exists_ownersWithin ho hh (fun _ => false) e
  have howners := ownersWithin_eq_ok.1 howners
  have hnames : ∀ v ∈ owners.reverse.map Element.name ++ [e.name], v.isText = true := by
    rw [List.forall_mem_append, List.forall_mem_singleton, List.forall_mem_map]
    refine ⟨fun o hmem => ?_, he⟩
    obtain ⟨x, hx, rfl⟩ := mem_index_of_mem_ownersUntil howners o (List.mem_reverse.1 hmem)
    exact hnamed x hx
  obtain ⟨texts, htexts⟩ := exists_texts hnames
  exact ⟨_, displayPath_eq_ok.2 ⟨owners, texts, howners, htexts, rfl⟩⟩

namespace WellFormed

theorem exists_displayPath (h : s.WellFormed) {e : Element} (he : e.name.isText = true) :
    ∃ place, s.displayPath e = .ok place :=
  exists_displayPath_of_named h.hashable h.ownersDiffer
    (fun _ hx => (Element.isTyped_iff.1 (isTyped_of_mem_index h.typed hx)).1) he

theorem exists_targetsOf (h : s.WellFormed) (e : Element) {edges : List Edge}
    (hedges : ∀ edge ∈ edges, edge.target.isKey = true) : ∃ r, s.targetsOf e edges = .ok r := by
  induction edges with
  | nil => exact ⟨_, rfl⟩
  | cons edge r ih =>
    rw [List.forall_mem_cons] at hedges
    obtain ⟨rest, hrest⟩ := ih hedges.2
    rw [targetsOf]
    split
    · have hfind : s.find edge.target = .ok (s.find? edge.target) := by
        rw [find, Json.asKey, if_pos hedges.1]
        rfl
      rw [hfind]
      cases hs : s.find? edge.target with
      | none => exact ⟨_, rfl⟩
      | some spot =>
        obtain ⟨owners, ho⟩ := exists_ownersWithin h.ownersDiffer h.hashable
          (fun o => o.steps = s.base.steps) spot.element
        have hpath : s.qualifiedPath spot.element =
            .ok (owners.reverse.map Element.name ++ [spot.element.name]) := by
          rw [qualifiedPath, ho]
          rfl
        simp [hpath, hrest, bind, Except.bind, pure, Except.pure]
    · exact ⟨rest, hrest⟩

end WellFormed
end Snapshot
end UmlPress
