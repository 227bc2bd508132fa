import UmlPress.Proofs.Preorder
import UmlPress.Proofs.Tour

/-!
# Where a visit stands

The base directory of a visit is built from the names of the packages on the
way from the base to it. A visit that emitted its element is a run of its own,
and one that failed was told by the place that the element is displayed by.
-/
namespace UmlPress

/-- A way from a spot to another one down the tree: the spots after the first,
each a child of the one before. -/
inductive Spot.Leads : Spot → List Spot → Spot → Prop
  | here (s : Spot) : Leads s [] s
  | down {s c t : Spot} {way : List Spot} : c ∈ s.children → Leads c way t → Leads s (c :: way) t

namespace Spot

theorem isPackage_of_mem_children {s c : Spot} (h : c ∈ s.children) :
    s.element.isPackage = true := by
  unfold children Element.children at h
  split at h
  · assumption
  · cases h

namespace Leads
variable {s t : Spot} {way : List Spot}

/-- All spots on a way but the last are packages. -/
theorem isPackage (h : s.Leads way t) : ∀ x ∈ (s :: way).dropLast, x.element.isPackage = true := by
  induction h with
  | here s => simp
  | down hc _ ih =>
    rw [List.dropLast_cons_cons]
    rintro x hx
    rcases List.mem_cons.1 hx with rfl | hx
    · exact isPackage_of_mem_children hc
    · exact ih x hx

theorem getLast_eq (h : s.Leads way t) : (s :: way).getLast (List.cons_ne_nil _ _) = t := by
  induction h with
  | here s => rfl
  | down _ _ ih => rw [List.getLast_cons (List.cons_ne_nil _ _), ih]

theorem steps_suffix (h : s.Leads way t) : s.steps <:+ t.steps := by
  induction h with
  | here s => exact List.suffix_refl _
  | down hc _ ih =>
    obtain ⟨k, hk⟩ := steps_of_mem_owned (owned_of_mem_children hc)
    rw [hk] at ih
    exact (List.suffix_cons k _).trans ih

end Leads

end Spot

namespace Emit.Workshop

def Stands (base : Path) (s : Spot) (v : Visit) : Prop :=
  ∃ way, s.Leads way v.spot ∧
    ((s :: way).dropLast.map (·.element.name)).foldlM packagePath base = .ok v.base

structure Attests (w : Workshop) (v : Visit) : Prop where
  emitted : v.ending = .emitted → ∃ supply supply' calls report below,
    (w.tour v.base v.spot.steps supply v.spot.element).Yields calls ((.ok report, supply'), below)
  failed : ∀ f, v.ending = .failed f → w.snapshot.displayPath v.spot.element = .ok f.place

variable {w : Workshop} {base full : Path} {supply supply' : Supply} {calls : List Call}
  {result : Except Trouble Report} {steps : List Nat} {number : Nat} {below : List Visit}

theorem stands_self (s : Spot) (ending : Ending) : Stands base s ⟨s, base, ending⟩ :=
  ⟨[], .here s, rfl⟩

theorem Stands.down {s c : Spot} {v : Visit} (hc : c ∈ s.children)
    (hp : packagePath base s.element.name = .ok full) (h : Stands full c v) : Stands base s v := by
  obtain ⟨way, hway, hbase⟩ := h
  refine ⟨c :: way, .down hc hway, ?_⟩
  rw [List.dropLast_cons_cons, List.map_cons, List.foldlM_cons, hp]
  exact hbase

theorem sound_tourOwned {report : Report} {es : List Element}
    (ih : ∀ e ∈ es, ∀ steps supply calls result supply' below,
      (w.tour full steps supply e).Yields calls ((result, supply'), below) →
        ∀ v ∈ below, w.Attests v ∧ Stands full ⟨steps, e⟩ v)
    (h : (w.tourOwned full steps number supply report es).Yields calls
      ((result, supply'), below)) :
    ∀ v ∈ below, w.Attests v ∧ ∃ c ∈ spotsBelow steps number es, Stands full c v := by
  induction es generalizing number supply report calls below with
  | nil =>
    obtain ⟨-, -, rfl⟩ := yields_tourOwned_nil h
    simp
  | cons e r ihr =>
    obtain ⟨first, rest, next, supplyNext, inside, ending, rfl, he, h⟩ := yields_tourOwned_cons h
    have hinside := ih e List.mem_cons_self _ _ _ _ _ _ he
    have hself (ha : w.Attests ⟨⟨number :: steps, e⟩, full, ending⟩) (after : List Visit)
        (hafter : ∀ v ∈ after, w.Attests v ∧ ∃ c ∈ spotsBelow steps (number + 1) r, Stands full c v) :
        ∀ v ∈ ⟨⟨number :: steps, e⟩, full, ending⟩ :: (inside ++ after),
          w.Attests v ∧ ∃ c ∈ spotsBelow steps number (e :: r), Stands full c v := by
      rw [List.forall_mem_cons, List.forall_mem_append]
      refine ⟨⟨ha, _, List.mem_cons_self, stands_self _ _⟩, fun v hv => ?_, fun v hv => ?_⟩
      · exact ⟨(hinside v hv).1, _, List.mem_cons_self, (hinside v hv).2⟩
      · obtain ⟨hv, c, hc, hs⟩ := hafter v hv
        exact ⟨hv, c, List.mem_cons_of_mem _ hc, hs⟩
    rcases h with ⟨t, rfl, -, -, -, -, rfl⟩ | ⟨report', after, rfl, hrest, h⟩
    · simpa using hself ⟨by simp, by simp⟩ [] (by simp)
    · refine hself ?_ after (ihr (fun e he => ih e (List.mem_cons_of_mem _ he)) hrest)
      rcases h with ⟨more, rfl, rfl, -⟩ | ⟨f, place, rfl, rfl, hd, -⟩
      · exact ⟨fun _ => ⟨_, _, _, _, _, he⟩, by simp⟩
      · exact ⟨by simp, by rintro _ ⟨⟩; exact hd⟩

/-- Every visit below an element stands where its names lead to. -/
theorem sound_tour {e : Element}
    (h : (w.tour base steps supply e).Yields calls ((result, supply'), below)) :
    ∀ v ∈ below, w.Attests v ∧ Stands base ⟨steps, e⟩ v := by
  induction e generalizing base steps supply calls result supply' below with
  | node facts shape owned ih =>
    by_cases hs : shape = .package
    · subst hs
      rcases yields_tour_package h with ⟨t, -, -, rfl, -⟩ | ⟨full, hp, ⟨t, -, -, rfl⟩ |
        ⟨t, -, -, rfl⟩ | ⟨rest, -, hrest⟩⟩
      · simp
      · simp
      · simp
      · intro v hv
        obtain ⟨ha, c, hc, hstands⟩ :=
          sound_tourOwned (fun e he _ _ _ _ _ _ => ih e he) hrest v hv
        exact ⟨ha, Stands.down hc hp hstands⟩
    · obtain ⟨rfl, -⟩ := yields_tour_leaf hs h
      simp

theorem sound_runTour {out : Path} {r : Except Trouble Report} {visits : List Visit}
    (h : (w.runTour out).Yields calls (r, visits)) :
    ∀ v ∈ visits, w.Attests v ∧ Stands out w.snapshot.base v := by
  obtain ⟨next, supplyNext, inside, ending, he, rfl, hend⟩ := yields_runTour h
  rw [List.forall_mem_cons]
  refine ⟨⟨?_, stands_self _ _⟩, sound_tour he⟩
  rcases hend with ⟨t, rfl, -, -, -⟩ | ⟨report, rfl, rfl, -⟩ | ⟨f, place, rfl, rfl, hd, -⟩
  · exact ⟨by simp, by simp⟩
  · exact ⟨fun _ => ⟨_, _, _, _, _, he⟩, by simp⟩
  · exact ⟨by simp, by rintro _ ⟨⟩; exact hd⟩

end Emit.Workshop
end UmlPress
