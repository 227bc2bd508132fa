import Mathlib.Data.List.Nodup
import UmlPress.Proofs.Account
import UmlPress.Proofs.Whereabouts

/-!
# Every element is accounted for once

A run that returns has gone through the walk from the base, except for what
stands below a package that failed. Its report has one entry for each element on
that walk, in the same order, and nothing else.
-/
namespace UmlPress.Emit.Workshop

/-- A walk that is closed where a visit failed leaves out just what stands below
a failed visit. -/
theorem preorder_of_failed {visits : List Visit} {s : Spot}
    (hbelow : ∀ v ∈ visits, s.steps <:+ v.spot.steps) :
    s.walkUnless (fun u => visits.any fun v => v.hasFailed && v.spot.steps == u) =
      (walkFrom [s]).filter fun t => !visits.any fun v => v.hasFailed && v.spot.isAbove t := by
  rw [walkFrom_eq, List.flatMap_singleton]
  refine Spot.walkUnless_eq_filter s fun t _ => ?_
  simp only [Bool.not_eq_true', List.any_eq_false, Bool.and_eq_true, not_and,
    Spot.isAbove_iff, beq_iff_eq]
  constructor
  · rintro h u - hut hne v hv hfailed rfl
    exact h v hv hfailed hut hne
  · intro h v hv hfailed hvt hne
    exact h _ (hbelow v hv) hvt hne v hv hfailed rfl

section
variable {w : Workshop} {out : Path} {calls : List Call} {report : Report} {visits : List Visit}

/-- The visits of a run that returns are the walk without what stands below a failed one. -/
theorem spots_of_visits (h : (w.runTour out).Yields calls (.ok report, visits)) :
    visits.map (·.spot) = (walkFrom [w.snapshot.base]).filter fun s =>
      !visits.any fun v => v.hasFailed && v.spot.isAbove s := by
  have hclosed (v : Visit) (hv : v ∈ visits) :
      (visits.any fun u => u.hasFailed && u.spot.steps == v.spot.steps) = v.hasFailed := by
    rw [Bool.eq_iff_iff, List.any_eq_true]
    constructor
    · rintro ⟨u, hu, h'⟩
      obtain ⟨hfailed, heq⟩ := Bool.and_eq_true_iff.1 h'
      rwa [← List.inj_on_of_nodup_map (nodup_runTour h) hu hv (eq_of_beq heq)]
    · intro hfailed
      exact ⟨v, hv, by simp [hfailed]⟩
  have hbelow (v : Visit) (hv : v ∈ visits) : w.snapshot.base.steps <:+ v.spot.steps := by
    obtain ⟨-, way, hway, -⟩ := sound_runTour h v hv
    exact hway.steps_suffix
  rw [← preorder_of_failed hbelow]
  exact (accounted_runTour h).walk _ hclosed

end

/-- A run that returns a report has gone through the walk from its base without
what stands below a failed element, once through each place and through packages
only. The entries of the visits, in their order, are those of the report. -/
theorem every_element_once (w : Workshop) (out : Path) (disk : Disk) {m m' : Memory}
    {report : Report} (h : (w.run out).run (Sink.ofMemory disk) m = (.ok report, m')) :
    ∃ visits, (w.runTour out).run (Sink.ofMemory disk) m = ((.ok report, visits), m') ∧
      visits.map (·.spot) = (walkFrom [w.snapshot.base]).filter (fun s =>
        !visits.any fun v => v.hasFailed && v.spot.isAbove s) ∧
      (visits.map (·.spot.steps)).Nodup ∧
      (∀ v ∈ visits, (w.share? v).isSome = !v.spot.element.isOther) ∧
      (∀ v ∈ visits, ∀ f, v.ending = .failed f →
        w.snapshot.displayPath v.spot.element = .ok f.place) ∧
      (∀ v ∈ visits, ∃ way, w.snapshot.base.Leads way v.spot ∧
        (∀ s ∈ (w.snapshot.base :: way).dropLast, s.element.isPackage = true) ∧
        ((w.snapshot.base :: way).dropLast.map (·.element.name)).foldlM packagePath out =
          .ok v.base) ∧
      report.generated = visits.filterMap w.path? ∧
      report.failures = visits.filterMap w.failure? := by
  rw [← map_runTour, Plan.run_map] at h
  obtain ⟨hr, hm⟩ := Prod.mk.inj h
  let visits := ((w.runTour out).run (Sink.ofMemory disk) m).1.2
  have hrun : (w.runTour out).run (Sink.ofMemory disk) m = ((.ok report, visits), m') :=
    Prod.ext (Prod.ext hr rfl) hm
  obtain ⟨calls, hy⟩ := Plan.yields_of_run hrun
  have haccount := accounted_runTour hy
  have hsound := sound_runTour hy
  refine ⟨visits, hrun, spots_of_visits hy, nodup_runTour hy, haccount.isSome,
    fun v hv => (hsound v hv).1.failed, fun v hv => ?_, haccount.generated, haccount.failures⟩
  obtain ⟨-, way, hway, hbase⟩ := hsound v hv
  exact ⟨way, hway, hway.isPackage, hbase⟩

/-- The sample in a store with a file where a package is to go. -/
theorem every_element_once_sample : ∃ visits report m',
    (sample.runTour (.ofString "out")).run (Sink.ofMemory {})
        { files := [(.ofString "out/shop/parts", "")] } = ((.ok report, visits), m') ∧
      visits.map (·.spot.steps) = [[0], [0, 0], [1, 0], [2, 0], [3, 0], [4, 0]] ∧
      report.generated.map Path.text =
        ["out/shop/__init__.dart", "out/shop/Cart.dart", "out/shop/Size.dart"] ∧
      report.failures.map (·.place) = ["project/shop/parts", "project/shop/lost"] ∧
      report.failures = visits.filterMap sample.failure? := by
  let m : Memory := { files := [(.ofString "out/shop/parts", "")] }
  let ended := (sample.runTour (.ofString "out")).run (Sink.ofMemory {}) m
  have hsteps : ended.1.2.map (·.spot.steps) = [[0], [0, 0], [1, 0], [2, 0], [3, 0], [4, 0]] := by
    decide +kernel
  have hreport : (ended.1.1.toOption.map fun r => (r.generated.map Path.text,
      r.failures.map (·.place))) = some (["out/shop/__init__.dart", "out/shop/Cart.dart",
        "out/shop/Size.dart"], ["project/shop/parts", "project/shop/lost"]) := by
    decide +kernel
  have hok : ((sample.run (.ofString "out")).run (Sink.ofMemory {}) m).1.toOption.isSome = true := by
    decide +kernel
  cases hr : (sample.run (.ofString "out")).run (Sink.ofMemory {}) m with
  | mk result m' =>
    rw [hr] at hok
    rcases result with t | report
    · cases hok
    · obtain ⟨visits, hrun, -, -, -, -, -, -, hf⟩ := every_element_once sample _ {} hr
      have hended : ended = ((.ok report, visits), m') := hrun
      rw [hended] at hsteps hreport
      obtain ⟨hg, hp⟩ := Prod.mk.inj (Option.some.inj hreport)
      exact ⟨visits, report, m', hrun, hsteps, hg, hp, hf⟩

end UmlPress.Emit.Workshop
