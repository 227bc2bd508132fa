import Mathlib.Data.List.TakeWhile
import UmlPress.Proofs.Keys
import UmlPress.Proofs.Owners

/-!
# Owners of owners

The owners of an element are found one after the other, each by the id of the
one before. With ids that stand on several elements the next owner may be in
another branch of the tree, and further down. It is still an entry that a
traversal leaves later, so the owners come to an end and no id is met twice,
unless an element has the id of something that owns it.
-/
namespace UmlPress.Snapshot

/-- The owners from an element on, nearest first. Nothing bounds their number. -/
inductive Follows (s : Snapshot) : Element → List Spot → Prop
  | done {e : Element} : s.ownerOf? e = none → Follows s e []
  | step {e : Element} {o : Spot} {chain : List Spot} :
    s.ownerOf? e = some o → Follows s o.element chain → Follows s e (o :: chain)

variable {s : Snapshot} {e : Element} {chain : List Spot} {x y : Entry}

theorem owner_of_ownerOf? {o : Spot} (h : s.ownerOf? e = some o) :
    ∃ x ∈ s.index, s.holder? e.id = some x ∧ x.owner = some o := by
  rw [ownerOf?_eq] at h
  obtain ⟨x, hx, ho⟩ := Option.bind_eq_some_iff.1 h
  exact ⟨x, (holder?_eq_some hx).1, hx, ho⟩

namespace Follows

/-- An element has one chain of owners at most. -/
theorem unique {other : List Spot} (h : s.Follows e chain) (h' : s.Follows e other) :
    chain = other := by
  induction h generalizing other with
  | done hnone =>
    cases h' with
    | done _ => rfl
    | step hsome _ =>
      rw [hnone] at hsome
      cases hsome
  | step hsome _ ih =>
    cases h' with
    | done hnone =>
      rw [hnone] at hsome
      cases hsome
    | step hsome' hrest =>
      rw [hsome] at hsome'
      cases hsome'
      rw [ih hrest]

/-- Another base has the same owners. -/
theorem withBase (h : s.Follows e chain) (base : Spot) : (s.withBase base).Follows e chain := by
  induction h with
  | done hnone => exact .done hnone
  | step hsome _ ih => exact .step hsome ih

theorem ownersUntil (h : s.Follows e chain) (stop : Spot → Bool) {n : Nat}
    (hn : chain.length < n) :
    s.ownersUntil stop n e = some ((chain.takeWhile fun o => !stop o).map (·.element)) := by
  induction h generalizing n with
  | done hnone =>
    cases n with
    | zero => cases hn
    | succ n =>
      rw [Snapshot.ownersUntil, hnone]
      rfl
  | step hsome _ ih =>
    cases n with
    | zero => cases hn
    | succ n =>
      rw [Snapshot.ownersUntil, hsome, List.takeWhile_cons]
      dsimp only
      split
      · simp [*]
      · rw [ih (Nat.lt_of_succ_lt_succ hn)]
        simp [*]

end Follows

theorem exists_follows_of_ownersUntil {n : Nat} {owners : List Element}
    (h : s.ownersUntil (fun _ => false) n e = some owners) :
    ∃ chain, s.Follows e chain ∧ chain.length < n := by
  induction n generalizing e owners with
  | zero => cases h
  | succ n ih =>
    rw [ownersUntil] at h
    cases ho : s.ownerOf? e with
    | none => exact ⟨[], .done ho, Nat.succ_pos n⟩
    | some o =>
      simp only [ho, Bool.false_eq_true, if_false, Option.map_eq_some_iff] at h
      obtain ⟨rest, hrest, -⟩ := h
      obtain ⟨chain, hchain, hlength⟩ := ih hrest
      exact ⟨o :: chain, .step ho hchain, Nat.succ_lt_succ hlength⟩

/-- The owners of an element are fewer than the elements. -/
theorem exists_follows (hh : s.Hashable) (hd : s.OwnersDiffer) (e : Element) :
    ∃ chain, s.Follows e chain ∧ chain.length ≤ s.index.length := by
  obtain ⟨owners, howners⟩ := exists_ownersWithin hd hh (fun _ => false) e
  obtain ⟨chain, hchain, hlength⟩ := exists_follows_of_ownersUntil (ownersWithin_eq_ok.1 howners)
  exact ⟨chain, hchain, Nat.le_of_lt_succ hlength⟩

/-- Every owner is left later than the entry that the id of the element finds. -/
theorem Follows.leaving_lt (hh : s.Hashable) (hd : s.OwnersDiffer) (h : s.Follows e chain)
    (hx : s.holder? e.id = some x) :
    ∀ o ∈ chain, Spot.leaving x.spot.steps < Spot.leaving o.steps := by
  induction h generalizing x with
  | done _ => simp
  | step hsome hrest ih =>
    obtain ⟨x', hmem, hx', ho⟩ := owner_of_ownerOf? hsome
    rw [hx] at hx'
    cases hx'
    obtain ⟨z, hz, rfl, howned⟩ := exists_owner hmem ho
    obtain ⟨k, hk⟩ := Spot.steps_of_mem_owned howned
    obtain ⟨y, hy⟩ := exists_holder? hh hz
    have hlater := leaving_lt_of_owner hd hh hmem ho hy
    rw [List.forall_mem_cons]
    constructor
    · rw [hk]
      exact Spot.leaving_cons_lt k _
    · exact fun o' ho' => hlater.trans (ih hy o' ho')

theorem Follows.mem_index (h : s.Follows e chain) :
    ∀ o ∈ chain, ∃ z ∈ s.index, z.spot = o := by
  induction h with
  | done _ => simp
  | step hsome _ ih =>
    obtain ⟨x, hmem, -, ho⟩ := owner_of_ownerOf? hsome
    obtain ⟨z, hz, hzo, -⟩ := exists_owner hmem ho
    exact List.forall_mem_cons.2 ⟨⟨z, hz, hzo⟩, ih⟩

/-- An entry that is left later than the one that an id finds does not have that
id: it would have been found, or it owns what was found. -/
theorem not_sameKey_of_leaving_lt (hh : s.Hashable) (hd : s.OwnersDiffer) {id : Json}
    (hid : id.isKey = true) (hx : s.holder? id = some x) (hy : y ∈ s.index)
    (hlater : Spot.leaving x.spot.steps < Spot.leaving y.spot.steps) :
    id.sameKey y.spot.element.id = false := by
  by_contra hsame
  rw [Bool.not_eq_false] at hsame
  obtain ⟨hmem, hkey, hlast⟩ := holder?_eq_some hx
  have hykey : y.spot.element.id.sameKey id = true := by
    rw [Json.sameKey_comm (hh y hy) hid]
    exact hsame
  rcases hlast y hy hykey with rfl | habove | hearlier
  · exact lt_irrefl _ hlater
  · have hne : y.spot.steps ≠ x.spot.steps := fun heq => by
      rw [heq] at hlater
      exact lt_irrefl _ hlater
    have hdiffer := hd y hy x hmem (Spot.isAbove_iff.2 ⟨habove, hne⟩)
    rw [Json.sameKey_congr (hh x hmem) hid (hh y hy) hkey, hsame] at hdiffer
    cases hdiffer
  · exact lt_asymm hlater hearlier

/-- No id is met twice. -/
theorem Follows.ids_differ (hh : s.Hashable) (hd : s.OwnersDiffer) (h : s.Follows e chain)
    (he : e.id.isKey = true) :
    (e.id :: chain.map (·.element.id)).Pairwise fun a b => a.sameKey b = false := by
  induction h with
  | done _ => simp
  | @step e o chain hsome hrest ih =>
    have hwhole : s.Follows e (o :: chain) := .step hsome hrest
    obtain ⟨x, -, hx, -⟩ := owner_of_ownerOf? hsome
    rw [List.pairwise_cons]
    constructor
    · intro id hid
      obtain ⟨p, hp, rfl⟩ := List.mem_map.1 hid
      obtain ⟨z, hz, rfl⟩ := hwhole.mem_index p hp
      exact not_sameKey_of_leaving_lt hh hd he hx hz (hwhole.leaving_lt hh hd hx _ hp)
    · obtain ⟨z, hz, rfl⟩ := hwhole.mem_index o List.mem_cons_self
      exact ih (hh z hz)

theorem ancestors_of_follows (h : s.Follows e chain) (hn : chain.length ≤ s.index.length) :
    s.ancestors e = .ok (chain.reverse.map (·.element)) := by
  have howners := h.ownersUntil (fun _ => false) (Nat.lt_succ_of_le hn)
  rw [List.takeWhile_eq_self_iff.2 (by simp)] at howners
  rw [ancestors, ownersWithin_eq_ok.2 howners, List.map_reverse]
  rfl

theorem qualifiedPath_of_follows (h : s.Follows e chain) (hn : chain.length ≤ s.index.length) :
    s.qualifiedPath e = .ok ((chain.takeWhile fun o => o.steps ≠ s.base.steps).reverse.map
      (·.element.name) ++ [e.name]) := by
  have howners := h.ownersUntil (fun o => o.steps = s.base.steps) (Nat.lt_succ_of_le hn)
  rw [qualifiedPath, ownersWithin_eq_ok.2 howners]
  simp [Except.map, List.map_reverse]

theorem displayPath_of_follows (h : s.Follows e chain) (hn : chain.length ≤ s.index.length) :
    s.displayPath e = (textsFrom 0 (chain.reverse.map (·.element.name) ++ [e.name])).map
      ("/".intercalate ·) := by
  rw [displayPath, ancestors_of_follows h hn]
  show (textsFrom 0 ((chain.reverse.map (·.element)).map Element.name ++ [e.name])).bind _ = _
  rw [List.map_map]
  rfl

/-- If no element has the id of one of its owners, the owners of every element
come to an end without an id that is met twice, and so do the questions that
follow them. -/
theorem owners_end (hh : s.Hashable) (hd : s.OwnersDiffer) (hx : x ∈ s.index) :
    ∃ chain, s.Follows x.spot.element chain ∧
      ((x.spot :: chain).map (·.element.id)).Pairwise (fun a b => a.sameKey b = false) ∧
      s.ancestors x.spot.element = .ok (chain.reverse.map (·.element)) ∧
      s.displayPath x.spot.element = (textsFrom 0 (chain.reverse.map (·.element.name) ++
        [x.spot.element.name])).map ("/".intercalate ·) ∧
      ∀ base, (s.withBase base).qualifiedPath x.spot.element =
        .ok ((chain.takeWhile fun o => o.steps ≠ base.steps).reverse.map (·.element.name) ++
          [x.spot.element.name]) := by
  obtain ⟨chain, hchain, hlength⟩ := exists_follows hh hd x.spot.element
  refine ⟨chain, hchain, hchain.ids_differ hh hd (hh x hx), ancestors_of_follows hchain hlength,
    displayPath_of_follows hchain hlength, fun base => ?_⟩
  exact qualifiedPath_of_follows (hchain.withBase base) hlength

def crossed : Snapshot :=
  let package (id : String) (owned : List Element) : Element :=
    .node ⟨.text id, .text id, .text ""⟩ .package owned
  let root := package "r"
    [package "a" [.node ⟨.text "x", .text "x", .text ""⟩ (.classifier false [] []) []],
      package "b" [package "c" [package "a" []]]]
  ⟨root, [], rootSpot root⟩

theorem owners_end_crossed : ∃ x ∈ crossed.index, x.spot.steps = [0, 0] ∧
    x.owner.map (·.steps) = some [0] ∧
    ∃ chain, crossed.Follows x.spot.element chain ∧ chain.length = 4 ∧
      ((x.spot :: chain).map (·.element.id)).Pairwise (fun a b => a.sameKey b = false) ∧
      (crossed.displayPath x.spot.element).toOption = some "r/b/c/a/x" := by
  have hh : crossed.Hashable := by
    unfold Hashable
    decide +kernel
  have hd : crossed.OwnersDiffer := by
    unfold OwnersDiffer
    decide +kernel
  obtain ⟨x, hx, hsteps, howner, hlength, hdisplay⟩ : ∃ x ∈ crossed.index, x.spot.steps = [0, 0] ∧
      x.owner.map (·.steps) = some [0] ∧
      (crossed.ancestors x.spot.element).toOption.map List.length = some 4 ∧
      (crossed.displayPath x.spot.element).toOption = some "r/b/c/a/x" := by decide +kernel
  obtain ⟨chain, hchain, hdiffer, hancestors, -⟩ := owners_end hh hd hx
  rw [hancestors] at hlength
  exact ⟨x, hx, hsteps, howner, chain, hchain, by simpa [Except.toOption] using hlength, hdiffer,
    hdisplay⟩

end UmlPress.Snapshot
