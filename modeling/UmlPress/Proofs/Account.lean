import UmlPress.Proofs.Preorder
import UmlPress.Proofs.Tour

/-!
# The account of a run

Every visit accounts for its element: with the file that it wrote, with its
failure, or with nothing if the element is one that nothing is generated for. A
report that comes out of a run is made of these entries, in the order of the
visits, and the visits are the walk from the base without what stands below a
failed element.
-/
namespace UmlPress

def Element.isOther (e : Element) : Bool :=
  match e.shape with
  | .other _ => true
  | _ => false

namespace Emit

def Visit.hasFailed (v : Visit) : Bool :=
  match v.ending with
  | .failed _ => true
  | _ => false

namespace Workshop

/-- The marker of a package and the file of any other element, in a directory. -/
def ownPath (w : Workshop) (base : Path) : Element → Option Path
  | .node facts .package _ => (packagePath base facts.name).toOption.map w.marker
  | .node _ (.other _) _ => none
  | .node _ .unsupported _ => none
  | e => (w.fileName e).toOption.map base.child

/-- What a visit adds to a report. -/
def share? (w : Workshop) (v : Visit) : Option (Path ⊕ Failure) :=
  match v.ending with
  | .emitted => (w.ownPath v.base v.spot.element).map .inl
  | .failed f => some (.inr f)
  | .stopped _ => none

def path? (w : Workshop) (v : Visit) : Option Path := (w.share? v).bind Sum.getLeft?

def failure? (w : Workshop) (v : Visit) : Option Failure := (w.share? v).bind Sum.getRight?

/-- The visits of a part of a run account for what the part reports. They are its
walk, closed where a visit failed, and each has its entry unless there is nothing
to generate. -/
structure Accounted (w : Workshop) (visits : List Visit) (calls : List Call)
    (files : List Path) (faults : List Failure) (spots : (List Nat → Bool) → List Spot) : Prop where
  generated : files = visits.filterMap w.path?
  failures : faults = visits.filterMap w.failure?
  written : (Call.written calls).map (·.1) = files
  isSome : ∀ v ∈ visits, (w.share? v).isSome = !v.spot.element.isOther
  walk : ∀ closed, (∀ v ∈ visits, closed v.spot.steps = v.hasFailed) →
    visits.map (·.spot) = spots closed

namespace Accounted
variable {w : Workshop} {walk walk' : (List Nat → Bool) → List Spot}

theorem nil : w.Accounted [] [] [] [] fun _ => [] :=
  ⟨rfl, rfl, rfl, by simp, fun _ _ => rfl⟩

theorem append {vs vs' : List Visit} {cs cs' : List Call} {gs gs' : List Path}
    {fs fs' : List Failure} (h : w.Accounted vs cs gs fs walk)
    (h' : w.Accounted vs' cs' gs' fs' walk') :
    w.Accounted (vs ++ vs') (cs ++ cs') (gs ++ gs') (fs ++ fs')
      fun closed => walk closed ++ walk' closed where
  generated := by rw [h.generated, h'.generated, List.filterMap_append]
  failures := by rw [h.failures, h'.failures, List.filterMap_append]
  written := by rw [Call.written_append, List.map_append, h.written, h'.written]
  isSome v hv := (List.mem_append.1 hv).elim (h.isSome v) (h'.isSome v)
  walk closed hc := by
    rw [List.map_append, h.walk closed fun v hv => hc v (List.mem_append_left _ hv),
      h'.walk closed fun v hv => hc v (List.mem_append_right _ hv)]

end Accounted

variable {w : Workshop} {base full : Path} {supply supply' : Supply} {calls : List Call}
  {result : Except Trouble Report} {steps : List Nat} {number : Nat} {below : List Visit}

theorem sublist_tourOwned {es : List Element}
    (ih : ∀ e ∈ es, ∀ steps supply calls result supply' below,
      (w.tour full steps supply e).Yields calls ((result, supply'), below) →
        ((⟨steps, e⟩ : Spot) :: below.map (·.spot)).Sublist (Spot.walkOf ⟨steps, e⟩))
    (h : (w.tourOwned full steps number supply report es).Yields calls
      ((result, supply'), below)) :
    (below.map (·.spot)).Sublist ((spotsBelow steps number es).flatMap Spot.walkOf) := by
  induction es generalizing number supply report calls below with
  | nil =>
    obtain ⟨-, -, rfl⟩ := yields_tourOwned_nil h
    exact List.nil_sublist _
  | cons e r ihr =>
    obtain ⟨first, rest, result', supplyNext, inside, ending, -, he, h⟩ := yields_tourOwned_cons h
    have hfirst := ih e List.mem_cons_self _ _ _ _ _ _ he
    rw [spotsBelow, List.flatMap_cons]
    rcases h with ⟨t, -, -, -, -, -, rfl⟩ | ⟨report', after, rfl, hrest, -⟩
    · exact hfirst.trans (List.sublist_append_left _ _)
    · rw [List.map_cons, List.map_append, ← List.cons_append]
      exact hfirst.append (ihr (fun e he => ih e (List.mem_cons_of_mem _ he)) hrest)

/-- However a tour ends, its visits stand in the walk, in that order. -/
theorem sublist_tour {e : Element}
    (h : (w.tour base steps supply e).Yields calls ((result, supply'), below)) :
    ((⟨steps, e⟩ : Spot) :: below.map (·.spot)).Sublist (Spot.walkOf ⟨steps, e⟩) := by
  induction e generalizing base steps supply calls result supply' below with
  | node facts shape owned ih =>
    rw [Spot.walkOf_eq]
    refine List.Sublist.cons_cons _ ?_
    by_cases hs : shape = .package
    · subst hs
      rcases yields_tour_package h with ⟨t, -, -, rfl, -⟩ | ⟨full, -, ⟨t, -, -, rfl⟩ |
        ⟨t, -, -, rfl⟩ | ⟨rest, -, hrest⟩⟩
      · exact List.nil_sublist _
      · exact List.nil_sublist _
      · exact List.nil_sublist _
      · exact sublist_tourOwned (fun e he _ _ _ _ _ _ => ih e he) hrest
    · obtain ⟨rfl, -⟩ := yields_tour_leaf hs h
      exact List.nil_sublist _

/-- No place is visited twice. -/
theorem nodup_runTour {out : Path} {visits : List Visit}
    (h : (w.runTour out).Yields calls (result, visits)) :
    (visits.map (·.spot.steps)).Nodup := by
  obtain ⟨_, _, inside, ending, he, rfl, -⟩ := yields_runTour h
  have hsublist := (sublist_tour he).map (·.steps)
  rw [List.map_cons, List.map_map] at hsublist
  exact (Spot.nodup_preorder w.snapshot.base).sublist hsublist

/-- An element that wrote its file is accounted for by it. -/
theorem accounted_emitted {e : Element} {path : Path} {walk : (List Nat → Bool) → List Spot}
    {inside : List Visit} {calls' : List Call} {gs : List Path} {fs : List Failure}
    (hp : w.ownPath base e = some path) (ho : e.isOther = false)
    (hcalls : (Call.written calls).map (·.1) = [path])
    (hwalk : ∀ closed, closed steps = false →
      Spot.walkUnless closed ⟨steps, e⟩ = ⟨steps, e⟩ :: walk closed)
    (h : w.Accounted inside calls' gs fs walk) :
    w.Accounted (⟨⟨steps, e⟩, base, .emitted⟩ :: inside) (calls ++ calls') (path :: gs) fs
      fun closed => Spot.walkUnless closed ⟨steps, e⟩ where
  generated := by simp [path?, share?, hp, h.generated]
  failures := by simp [failure?, share?, hp, h.failures]
  written := by rw [Call.written_append, List.map_append, hcalls, h.written]; rfl
  isSome v hv := by
    rcases List.mem_cons.1 hv with rfl | hv
    · simp [share?, hp, ho]
    · exact h.isSome v hv
  walk closed hc := by
    rw [hwalk closed (hc _ List.mem_cons_self), List.map_cons,
      h.walk closed fun v hv => hc v (List.mem_cons_of_mem _ hv)]

theorem accounted_failed {e : Element} {f : Failure} (ho : e.isOther = false)
    (hcalls : Call.written calls = []) :
    w.Accounted [⟨⟨steps, e⟩, base, .failed f⟩] calls [] [f]
      fun closed => Spot.walkUnless closed ⟨steps, e⟩ where
  generated := by simp [path?, share?]
  failures := by simp [failure?, share?]
  written := by rw [hcalls]; rfl
  isSome v hv := by
    obtain rfl := List.mem_singleton.1 hv
    simp [share?, ho]
  walk closed hc := by
    rw [Spot.walkUnless_eq, hc _ List.mem_cons_self]
    rfl

/-- What a tour of an element amounts to: an account of the element and of all
below it, or a fault that has written nothing and visited nothing. -/
def Told (w : Workshop) (base : Path) (steps : List Nat) (e : Element) (calls : List Call)
    (below : List Visit) : Except Trouble Report → Prop
  | .ok report => w.Accounted (⟨⟨steps, e⟩, base, .emitted⟩ :: below) calls report.generated
      report.failures fun closed => Spot.walkUnless closed ⟨steps, e⟩
  | .error (.fault _) => below = [] ∧ Call.written calls = [] ∧ e.isOther = false
  | .error _ => True

theorem told_leaf {facts : Facts} {shape : Shape} {owned : List Element} (hs : shape ≠ .package)
    (h : (w.emit base supply (.node facts shape owned)).Yields calls (result, supply')) :
    w.Told base steps (.node facts shape owned) calls [] result := by
  have hwalk (closed : List Nat → Bool) (_ : closed steps = false) :
      Spot.walkUnless closed ⟨steps, .node facts shape owned⟩ = [⟨steps, .node facts shape owned⟩] := by
    rw [Spot.walkUnless_eq, Spot.children, Element.children]
    cases shape <;> simp_all [Element.isPackage, Element.shape, spotsBelow]
  cases shape with
  | package => exact absurd rfl hs
  | other type =>
    rw [emit, Plan.yields_note, Plan.yields_done] at h
    obtain ⟨rfl, h⟩ := h
    cases h
    refine ⟨rfl, rfl, rfl, fun v hv => ?_, fun closed hc => ?_⟩
    · obtain rfl := List.mem_singleton.1 hv
      rfl
    · exact (hwalk closed (hc _ List.mem_cons_self)).symm
  | unsupported =>
    rw [emit, Plan.yields_done] at h
    obtain ⟨rfl, h⟩ := h
    cases h
    exact ⟨rfl, rfl, rfl⟩
  | _ =>
    rw [emit] at h
    obtain ⟨found, -, -, ⟨t, -, rfl, rfl⟩ | ⟨m, -, rfl, rfl⟩ |
      ⟨text, name, answer, -, hn, rfl, rfl⟩⟩ := yields_emitFile h
    · cases t <;> simp [Told, Element.isOther, Element.shape]
    · trivial
    · rcases answer with t | ⟨⟨⟩⟩
      · cases t <;> simp [Except.map, Told, Element.isOther, Element.shape]
      · show w.Accounted _ ([.write (base.child name) text (.ok ())] ++ []) _ _ _
        exact accounted_emitted (by simp [ownPath, hn, Except.toOption]) rfl rfl hwalk .nil

/-- What is owned is accounted for on top of the report so far, and no fault of
an owned element gets out. -/
theorem told_tourOwned {report : Report} {es : List Element}
    (ih : ∀ e ∈ es, ∀ steps supply calls result supply' below,
      (w.tour full steps supply e).Yields calls ((result, supply'), below) →
        w.Told full steps e calls below result)
    (h : (w.tourOwned full steps number supply report es).Yields calls
      ((result, supply'), below)) :
    (∀ f, result ≠ .error (.fault f)) ∧
      ∀ all, result = .ok all → ∃ files faults,
        all.generated = report.generated ++ files ∧ all.failures = report.failures ++ faults ∧
        w.Accounted below calls files faults fun closed =>
          (spotsBelow steps number es).flatMap (Spot.walkUnless closed) := by
  induction es generalizing number supply report calls below with
  | nil =>
    obtain ⟨rfl, rfl, rfl⟩ := yields_tourOwned_nil h
    refine ⟨by simp, ?_⟩
    rintro all ⟨⟩
    exact ⟨[], [], by simp, by simp, .nil⟩
  | cons e r ihr =>
    obtain ⟨first, rest, next, supplyNext, inside, ending, rfl, he, h⟩ := yields_tourOwned_cons h
    have hfirst := ih e List.mem_cons_self _ _ _ _ _ _ he
    rcases h with ⟨t, -, -, rfl, ht, -, -⟩ | ⟨report', after, rfl, hrest, h⟩
    · exact ⟨by simpa using ht, by simp⟩
    · obtain ⟨hnot, hrest⟩ := ihr (fun e he => ih e (List.mem_cons_of_mem _ he)) hrest
      refine ⟨hnot, fun all hall => ?_⟩
      obtain ⟨files, faults, hfiles, hfaults, hafter⟩ := hrest all hall
      rcases h with ⟨more, rfl, rfl, rfl⟩ | ⟨f, place, rfl, rfl, -, rfl⟩
      · refine ⟨more.generated ++ files, more.failures ++ faults, ?_, ?_, hfirst.append hafter⟩
        · rw [hfiles, ← List.append_assoc]
          rfl
        · rw [hfaults, ← List.append_assoc]
          rfl
      · obtain ⟨rfl, hw, ho⟩ := hfirst
        refine ⟨files, ⟨place, f⟩ :: faults, hfiles, ?_, (accounted_failed ho hw).append hafter⟩
        rw [hfaults]
        exact List.append_assoc report.failures [⟨place, f⟩] faults

theorem told_tour {e : Element}
    (h : (w.tour base steps supply e).Yields calls ((result, supply'), below)) :
    w.Told base steps e calls below result := by
  induction e generalizing base steps supply calls result supply' below with
  | node facts shape owned ih =>
    by_cases hs : shape = .package
    · subst hs
      rcases yields_tour_package h with ⟨t, rfl, rfl, rfl, -⟩ | ⟨full, hp, ⟨t, rfl, rfl, rfl⟩ |
        ⟨t, rfl, rfl, rfl⟩ | ⟨rest, rfl, hrest⟩⟩
      · cases t <;> simp [Told, Element.isOther, Element.shape]
      · cases t <;> simp [Told, Element.isOther, Element.shape]
      · cases t <;> simp [Told, Element.isOther, Element.shape]
      · obtain ⟨hnot, hok⟩ := told_tourOwned (fun e he _ _ _ _ _ _ => ih e he) hrest
        rcases result with t | report
        · cases t with
          | fault f => exact absurd rfl (hnot f)
          | _ => trivial
        · obtain ⟨files, faults, hfiles, hfaults, hbelow⟩ := hok report rfl
          show w.Accounted _ ([.makeDirectory full (.ok ()), .write (w.marker full) "" (.ok ())] ++
            rest) _ _ _
          rw [hfiles, hfaults]
          refine accounted_emitted (by simp [ownPath, hp, Except.toOption]) rfl rfl ?_ hbelow
          intro closed hc
          rw [Spot.walkUnless_eq, hc]
          rfl
    · obtain ⟨rfl, he⟩ := yields_tour_leaf hs h
      exact told_leaf hs he

/-- A run that returns a report tells by its visits what is in the report. -/
theorem accounted_runTour {out : Path} {report : Report} {visits : List Visit}
    (h : (w.runTour out).Yields calls (.ok report, visits)) :
    w.Accounted visits calls report.generated report.failures
      fun closed => w.snapshot.base.walkUnless closed := by
  obtain ⟨next, supplyNext, inside, ending, he, rfl, hend⟩ := yields_runTour h
  have htold := told_tour he
  rcases hend with ⟨t, -, hr, -⟩ | ⟨more, rfl, rfl, hr⟩ | ⟨f, place, rfl, rfl, -, hr⟩
  · cases hr
  · cases hr
    exact htold
  · cases hr
    obtain ⟨rfl, hw, ho⟩ := htold
    exact accounted_failed ho hw

end Workshop
end Emit
end UmlPress
