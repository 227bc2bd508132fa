import UmlPress.Proofs.Lineage

/-!
# What a walk enumerates

A walk goes on to what a package owns and to nothing else, so it meets an element if all of its
owners are packages. An id finds every element. The two agree on models in which only packages
own anything.
-/
namespace UmlPress

namespace Spot
variable {s c o t : Spot}

def reaches (s t : Spot) : Bool := (s.above t).all (·.element.isPackage)

theorem reaches_self (s : Spot) : s.reaches s = true := by
  rw [reaches, above_self]
  rfl

theorem reaches_of_mem_tree (hc : c ∈ s.owned) (ht : t ∈ c.tree) :
    s.reaches t = (s.element.isPackage && c.reaches t) := by
  rw [reaches, above_of_mem_tree hc ht]
  rfl

/-- The walk from a place is what is reached of the tree there, in the order of the tree. -/
theorem walkOf_eq_filter (s : Spot) : s.walkOf = s.tree.filter (s.reaches ·) := by
  induction s using Spot.inductionOn with
  | step s ih =>
    have hself := reaches_self s
    have hbelow : (s.owned.flatMap tree).filter (s.reaches ·) =
        if s.element.isPackage then s.owned.flatMap walkOf else [] := by
      rw [List.filter_flatMap]
      by_cases hs : s.element.isPackage = true
      · rw [if_pos hs]
        apply List.flatMap_congr
        intro c hc
        rw [ih c hc]
        apply List.filter_congr
        intro t ht
        rw [reaches_of_mem_tree hc ht, hs, Bool.true_and]
      · rw [if_neg hs]
        apply List.flatMap_eq_nil_iff.2
        intro c hc
        apply List.filter_eq_nil_iff.2
        intro t ht
        simp [reaches_of_mem_tree hc ht, hs]
    rw [tree_eq, List.filter_cons, if_pos hself, hbelow, walkOf, preorder_eq]
    rfl

/-- What stands above something owns something. -/
theorem owned_ne_nil_of_mem_above (ht : t ∈ s.tree) (ho : o ∈ s.above t) : o.owned ≠ [] := by
  induction s using Spot.inductionOn with
  | step s ih =>
    rcases mem_preorder_iff.1 ht with rfl | ⟨-, c, hc, htc⟩
    · rw [above_self] at ho
      cases ho
    · rw [above_of_mem_tree hc htc] at ho
      rcases List.mem_cons.1 ho with rfl | ho
      · exact List.ne_nil_of_mem hc
      · exact ih c hc htc ho

/-- Everything is reached if only packages own anything. -/
theorem reaches_all_iff (s : Spot) : (∀ t ∈ s.tree, s.reaches t = true) ↔
    ∀ o ∈ s.tree, o.owned ≠ [] → o.element.isPackage = true := by
  constructor
  · intro h o ho hne
    obtain ⟨c, hc⟩ := List.exists_mem_of_ne_nil _ hne
    have hreach := h c (mem_tree_of_owned ho hc)
    rw [reaches, above_of_owned ho hc, line, List.all_append] at hreach
    simp at hreach
    exact hreach.2
  · intro h t ht
    apply List.all_eq_true.2
    intro o ho
    exact h o (List.mem_filter.1 ho).1 (owned_ne_nil_of_mem_above ht ho)

end Spot

namespace Snapshot
variable {s : Snapshot} {p t : Spot} {request : String}

theorem walk_eq (s : Snapshot) :
    s.walk = (rootSpot s.root).tree.filter ((rootSpot s.root).reaches ·) := by
  rw [walk, walkFrom_eq, List.flatMap_singleton, Spot.walkOf_eq_filter]

theorem mem_walk_iff : t ∈ s.walk ↔
    t ∈ (rootSpot s.root).tree ∧ (rootSpot s.root).reaches t = true := by
  rw [walk_eq, List.mem_filter]

/-- The ids find just what stands in the tree. -/
theorem exists_find_iff (hh : s.Hashable) (hd : s.Distinct) :
    (∃ id, s.find id = .ok (some t)) ↔ t ∈ (rootSpot s.root).tree := by
  constructor
  · rintro ⟨id, hid⟩
    obtain ⟨x, hx, rfl⟩ := mem_index_of_find hid
    exact mem_tree_of_mem_index hx
  · intro ht
    rw [← index_spots] at ht
    obtain ⟨x, hx, rfl⟩ := List.mem_map.1 ht
    exact ⟨x.spot.element.id, find_of_mem hh hd hx⟩

/-- A walk meets all that the ids find just if only packages own anything. -/
theorem mem_walk_of_find_iff (hh : s.Hashable) (hd : s.Distinct) :
    (∀ id t, s.find id = .ok (some t) → t ∈ s.walk) ↔
      ∀ o ∈ (rootSpot s.root).tree, o.owned ≠ [] → o.element.isPackage = true := by
  rw [← Spot.reaches_all_iff]
  constructor
  · intro h t ht
    obtain ⟨id, hid⟩ := (exists_find_iff hh hd).2 ht
    exact (mem_walk_iff.1 (h id t hid)).2
  · intro h id t hid
    have ht := (exists_find_iff hh hd).1 ⟨id, hid⟩
    exact mem_walk_iff.2 ⟨ht, h t ht⟩

/-- No id is met twice in a walk. -/
theorem pairwise_walk (hd : s.Distinct) :
    s.walk.Pairwise fun t u => t.element.id.sameKey u.element.id = false := by
  have hplaces : ((rootSpot s.root).tree.map (·.steps)).Nodup := Spot.nodup_preorder _
  rw [walk_eq]
  apply List.Pairwise.filter
  apply (List.pairwise_map.1 hplaces).imp_of_mem
  intro t u ht hu hne
  rw [← index_spots] at ht hu
  obtain ⟨x, hx, rfl⟩ := List.mem_map.1 ht
  obtain ⟨y, hy, rfl⟩ := List.mem_map.1 hu
  by_contra hsame
  rw [Bool.not_eq_false] at hsame
  exact hne (hd x hx y hy hsame)

theorem packages_eq (s : Snapshot) : s.packages = (rootSpot s.root).tree.filter fun t =>
    t.element.isPackage && (rootSpot s.root).reaches t := by
  rw [packages, walk_eq, List.filter_filter]

/-- The package that has an id is found by it. -/
theorem find?_text (hh : s.Hashable) (hd : s.Distinct) :
    s.find? (.text request) = some t ↔
      t ∈ (rootSpot s.root).tree ∧ t.element.id = .text request := by
  rw [find?_eq]
  constructor
  · intro h
    obtain ⟨x, hx, rfl⟩ := Option.map_eq_some_iff.1 h
    obtain ⟨hmem, hkey, -⟩ := holder?_eq_some hx
    exact ⟨mem_tree_of_mem_index hmem, Json.sameKey_text_iff.1 hkey⟩
  · rintro ⟨ht, hid⟩
    rw [← index_spots] at ht
    obtain ⟨x, hx, rfl⟩ := List.mem_map.1 ht
    rw [← hid, holder?_of_mem hh hd hx]
    rfl

theorem find?_packages_eq_none :
    s.packages.find? (·.element.name.equals (.text request)) = none ↔
      ∀ p ∈ s.packages, p.element.name ≠ .text request := by
  rw [List.find?_eq_none]
  simp only [Document.equals_text, ne_eq]

/-- A package is asked for by its id first, and by its name if that finds none. -/
theorem findPackage_eq_none : s.findPackage (.text request) = .ok none ↔
    (∀ p, s.find? (.text request) = some p → p.element.isPackage = false) ∧
      s.packages.find? (·.element.name.equals (.text request)) = none := by
  have hfind : s.find (.text request) = .ok (s.find? (.text request)) := rfl
  unfold findPackage
  rw [hfind]
  generalize s.packages.find? (·.element.name.equals (.text request)) = named
  cases s.find? (.text request) with
  | none => simp [bind, Except.bind, pure, Except.pure]
  | some p => cases hp : p.element.isPackage <;> simp [bind, Except.bind, pure, Except.pure, hp]

/-- No package is found if none has the text as its id and none that is reached has it as its
name. -/
theorem findPackage_eq_none_iff (hh : s.Hashable) (hd : s.Distinct) :
    s.findPackage (.text request) = .ok none ↔
      ∀ p ∈ (rootSpot s.root).tree, p.element.isPackage = true → p.element.id ≠ .text request ∧
        ((rootSpot s.root).reaches p = true → p.element.name ≠ .text request) := by
  rw [findPackage_eq_none, find?_packages_eq_none, packages_eq]
  simp only [List.mem_filter, Bool.and_eq_true, and_imp]
  constructor
  · rintro ⟨hid, hname⟩ p hp hpackage
    refine ⟨fun heq => ?_, hname p hp hpackage⟩
    have hnone := hid p ((find?_text hh hd).2 ⟨hp, heq⟩)
    rw [hpackage] at hnone
    cases hnone
  · intro h
    refine ⟨fun p hp => ?_, fun p hp hpackage => (h p hp hpackage).2⟩
    obtain ⟨htree, heq⟩ := (find?_text hh hd).1 hp
    by_contra hpackage
    rw [Bool.not_eq_false] at hpackage
    exact (h p htree hpackage).1 heq

/-- A walk meets what is reached of the tree, each element once and in its order. So it meets
what the ids find just if only packages own anything. -/
theorem walk_enumerates_reached (hh : s.Hashable) (hd : s.Distinct) :
    let root := rootSpot s.root
    (∀ t, (∃ id, s.find id = .ok (some t)) ↔ t ∈ root.tree) ∧
    s.walk = root.tree.filter (root.reaches ·) ∧
    s.walk.Pairwise (fun t u => t.element.id.sameKey u.element.id = false) ∧
    ((∀ id t, s.find id = .ok (some t) → t ∈ s.walk) ↔
      ∀ o ∈ root.tree, o.owned ≠ [] → o.element.isPackage = true) ∧
    s.packages = root.tree.filter (fun p => p.element.isPackage && root.reaches p) ∧
    ∀ request, s.findPackage (.text request) = .ok none ↔
      ∀ p ∈ root.tree, p.element.isPackage = true → p.element.id ≠ .text request ∧
        (root.reaches p = true → p.element.name ≠ .text request) := by
  intro root
  exact ⟨fun _ => exists_find_iff hh hd, walk_eq s, pairwise_walk hd, mem_walk_of_find_iff hh hd,
    packages_eq s, fun _ => findPackage_eq_none_iff hh hd⟩

/-! A package within an element that is none. -/

def cellar : Element := .node ⟨.text "p", .text "P", .text ""⟩ .package []

def hatch : Element :=
  .node ⟨.text "o", .text "O", .text ""⟩ (.other (.text "UMLUseCaseSubject")) [cellar]

def cottage : Snapshot :=
  let root : Element := .node ⟨.text "r", .text "R", .text ""⟩ .package [hatch]
  ⟨root, [], rootSpot root⟩

theorem index_cottage : cottage.index = [⟨⟨[], cottage.root⟩, none⟩,
    ⟨⟨[0], hatch⟩, some ⟨[], cottage.root⟩⟩, ⟨⟨[0, 0], cellar⟩, some ⟨[0], hatch⟩⟩] := by
  simp [index, rootEntry, rootSpot, entriesFrom, Entry.owned, Spot.owned, spotsBelow, cottage,
    hatch, cellar, Element.owned]

theorem ids_cottage : cottage.Hashable ∧ cottage.Distinct := by
  constructor
  · unfold Hashable
    rw [index_cottage]
    decide
  · unfold Distinct
    rw [index_cottage]
    decide

theorem reaches_cellar : (rootSpot cottage.root).reaches ⟨[0, 0], cellar⟩ = false := by decide

theorem walk_enumerates_reached_cottage :
    cottage.walk = [⟨[], cottage.root⟩, ⟨[0], hatch⟩] ∧
    cottage.packages = [⟨[], cottage.root⟩] ∧
    cottage.findPackage (.text "Q") = .ok none := by
  obtain ⟨-, hwalk, -, -, hpackages, hnone⟩ :=
    walk_enumerates_reached ids_cottage.1 ids_cottage.2
  refine ⟨hwalk.trans rfl, hpackages.trans rfl, (hnone "Q").2 ?_⟩
  rw [← index_spots, index_cottage]
  simp [cottage, hatch, cellar, Element.id, Element.name, Element.facts]

/-- An id finds a package that no walk meets, that is not among the packages and that is not
found by its name. -/
theorem hidden_package_not_enumerated : cottage.Hashable ∧ cottage.Distinct ∧
    cottage.find (.text "p") = .ok (some ⟨[0, 0], cellar⟩) ∧ cellar.isPackage = true ∧
    cellar.name = .text "P" ∧ ⟨[0, 0], cellar⟩ ∉ cottage.walk ∧
    ⟨[0, 0], cellar⟩ ∉ cottage.packages ∧ cottage.findPackage (.text "P") = .ok none := by
  have hmem : ⟨⟨[0, 0], cellar⟩, some ⟨[0], hatch⟩⟩ ∈ cottage.index := by simp [index_cottage]
  have hnot : ⟨[0, 0], cellar⟩ ∉ cottage.walk := by
    intro h
    have hreaches := (mem_walk_iff.1 h).2
    rw [reaches_cellar] at hreaches
    cases hreaches
  refine ⟨ids_cottage.1, ids_cottage.2, find_of_mem ids_cottage.1 ids_cottage.2 hmem, rfl, rfl,
    hnot, fun h => hnot (List.mem_filter.1 h).1, ?_⟩
  refine (findPackage_eq_none_iff ids_cottage.1 ids_cottage.2).2 ?_
  rw [← index_spots, index_cottage]
  simp only [List.map_cons, List.map_nil, List.forall_mem_cons, reaches_cellar]
  simp [cottage, hatch, cellar, Element.id, Element.name, Element.facts]

end Snapshot
end UmlPress
