import UmlPress.Proofs.Conduct
import UmlPress.Proofs.Identity
import UmlPress.Proofs.Paths

/-!
# The package that a run is over

A document of the right form whose ids differ is read to a well-formed model. So it stays
whichever of its packages is chosen, and asking for one that is not there is a fault.
-/
namespace UmlPress

namespace Document
variable {es : Entries} {s : Snapshot}

structure IdsDiffer (es : Entries) : Prop where
  written : (writtenIds (elementsOf es)).Pairwise fun a b => a.sameKey b = false
  free : ∀ id ∈ writtenIds (elementsOf es), ∀ k, 1 ≤ k → k ≤ missingIds (elementsOf es) →
    id.sameKey (generatedId k) = false

theorem distinct_of_idsDiffer (htop : ∃ type ∈ packageTypes, typeOf es = .text type)
    (h : IdsDiffer es) (hread : toSnapshot es = .ok s) : s.Hashable ∧ s.Distinct := by
  have hread : read (.object es) = .ok s := by rw [read, hread]; rfl
  obtain ⟨hh, rest, -, hindex⟩ := exists_ids hread
  refine ⟨hh, (Snapshot.distinct_iff hh).2 ?_⟩
  obtain ⟨-, hindex⟩ := hindex.resolve_right fun h => h.1 htop
  have hkeys : ∀ id ∈ writtenIds (elementsOf es), id.isKey = true := by
    intro id hid
    have hmem := (perm_idsFrom 0 (elementsOf es)).mem_iff.2 (List.mem_append_left _ hid)
    rw [← hindex] at hmem
    obtain ⟨x, hx, rfl⟩ := List.mem_map.1 hmem
    exact hh x hx
  rw [hindex, nodup_idsFrom hkeys]
  exact ⟨h.written, h.free⟩

end Document

namespace Snapshot
variable {P Q : String → Prop} {s : Snapshot}

theorem wellFormed_of_spoken (h : s.Spoken P Q) (hh : s.Hashable) (hd : s.Distinct)
    (hbase : s.base = rootSpot s.root) : s.WellFormed where
  typed := h.root.isTyped
  targets edge hedge := by
    obtain ⟨t, ht, -⟩ := h.targets edge hedge
    rw [ht]
    rfl
  hashable := hh
  ownersDiffer := hd.ownersDiffer
  base := ⟨rootEntry s.root, s.rootEntry_mem_index, hbase.symm⟩

/-- A model is as well-formed over any of its elements. -/
theorem WellFormed.withBase (h : s.WellFormed) {spot : Spot} (hspot : ∃ x ∈ s.index, x.spot = spot) :
    (s.withBase spot).WellFormed :=
  ⟨h.typed, h.targets, h.hashable, h.ownersDiffer, hspot⟩

theorem Spoken.withBase (h : s.Spoken P Q) (spot : Spot) : (s.withBase spot).Spoken P Q :=
  ⟨h.root, h.targets⟩

theorem mem_index_of_mem_walkFrom {stack : List Spot} (h : ∀ p ∈ stack, ∃ x ∈ s.index, x.spot = p) :
    ∀ p ∈ walkFrom stack, ∃ x ∈ s.index, x.spot = p := by
  induction stack using walkFrom.induct with
  | case1 => simp [walkFrom]
  | case2 p stack ih =>
    obtain ⟨hp, hstack⟩ := List.forall_mem_cons.1 h
    rw [walkFrom, List.forall_mem_cons]
    refine ⟨hp, ih (List.forall_mem_append.2 ⟨fun c hc => ?_, hstack⟩)⟩
    exact ⟨_, mem_index_of_child hp hc, rfl⟩

theorem mem_index_of_mem_packages {p : Spot} (h : p ∈ s.packages) : ∃ x ∈ s.index, x.spot = p :=
  mem_index_of_mem_walkFrom (List.forall_mem_singleton.2 ⟨_, s.rootEntry_mem_index, rfl⟩) p
    (List.mem_filter.1 h).1

/-- A text can always be asked for, and what is found stands in the index. -/
theorem exists_findPackage (s : Snapshot) (request : String) :
    ∃ found, s.findPackage (.text request) = .ok found ∧
      ∀ spot, found = some spot → ∃ x ∈ s.index, x.spot = spot := by
  have hnamed : ∀ spot, s.packages.find? (·.element.name.equals (.text request)) = some spot →
      ∃ x ∈ s.index, x.spot = spot :=
    fun _ hspot => mem_index_of_mem_packages (List.mem_of_find?_eq_some hspot)
  have hfind : s.find (.text request) = .ok (s.find? (.text request)) := rfl
  unfold findPackage
  rw [hfind]
  cases hid : s.find? (.text request) with
  | none => exact ⟨_, rfl, hnamed⟩
  | some spot =>
    dsimp only [bind, Except.bind, pure, Except.pure]
    split
    case isTrue =>
      refine ⟨_, rfl, ?_⟩
      rintro _ ⟨⟩
      exact mem_index_of_find (hfind.trans (congrArg _ hid))
    case isFalse => exact ⟨_, rfl, hnamed⟩

/-- Whatever is asked for, there is an answer: a package of the index, none, or the fault that
there is none. -/
theorem exists_chosen (s : Snapshot) (request : Option String) :
    ∃ r, s.chosen ((request.map Json.text).getD .null) = .ok r ∧
      (∀ f, r = .error f → ∃ t ∈ request, f = .noPackage (.text t)) ∧
      ∀ spot, r = .ok (some spot) → ∃ x ∈ s.index, x.spot = spot := by
  have hfirst : ∀ spot, (Except.ok (s.packages.find? (·.steps ≠ [])) : Except Emit.Fault _) =
      .ok (some spot) → ∃ x ∈ s.index, x.spot = spot := fun _ hspot =>
    mem_index_of_mem_packages (List.mem_of_find?_eq_some (Except.ok.inj hspot))
  unfold chosen
  cases request with
  | none => exact ⟨_, rfl, nofun, hfirst⟩
  | some t =>
    rw [Option.map_some, Option.getD_some]
    split
    case isFalse => exact ⟨_, rfl, nofun, hfirst⟩
    case isTrue =>
      obtain ⟨found, hfound, hindex⟩ := s.exists_findPackage t
      rw [hfound]
      cases found with
      | none =>
        refine ⟨_, rfl, ?_, nofun⟩
        rintro f ⟨⟩
        exact ⟨t, rfl, rfl⟩
      | some spot =>
        refine ⟨_, rfl, nofun, ?_⟩
        rintro _ ⟨⟩
        exact hindex spot rfl

end Snapshot
end UmlPress
