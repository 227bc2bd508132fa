import UmlPress.Proofs.Account

/-!
# What a run reports as written

A report lists the files that were written, one for each write that succeeded.
An element that fails has written nothing, so no write is lost with it.
-/
namespace UmlPress.Emit.Workshop
variable {w : Workshop} {out : Path} {calls : List Call}

/-- An emission ends as some tour does. -/
theorem exists_visits {r : Except Trouble Report} (h : (w.run out).Yields calls r) :
    ∃ visits, (w.runTour out).Yields calls (r, visits) := by
  rw [← map_runTour, Plan.yields_map] at h
  obtain ⟨⟨r', visits⟩, htour, rfl⟩ := h
  exact ⟨visits, htour⟩

theorem generated_eq_written {report : Report} (h : (w.run out).Yields calls (.ok report)) :
    report.generated = (Call.written calls).map (·.1) := by
  obtain ⟨visits, htour⟩ := exists_visits h
  exact (accounted_runTour htour).written.symm

/-- Whatever was in the store, a run that returns reports the writes that
succeeded, one by one and in their order. The files are those from before with
these writes on top, and no directory is lost. -/
theorem generated_reports_writes (w : Workshop) (out : Path) (disk : Disk) {m m' : Memory}
    {report : Report} (h : (w.run out).run (Sink.ofMemory disk) m = (.ok report, m')) :
    ∃ calls, ((w.run out).run (Sink.ofMemory disk).recorded).run [] m =
        ((.ok report, calls), m') ∧
      report.generated = (Call.written calls).map (·.1) ∧
      m'.files = Keyed.update m.files (Call.written calls) ∧
      (∀ p, m'.read? p = (Keyed.last? p (Call.written calls)).or (m.read? p)) ∧
      (∀ p, p ∉ report.generated → m'.read? p = m.read? p) ∧
      (∀ p, m.hasDirectory p → m'.hasDirectory p) ∧ m.directories <+: m'.directories := by
  obtain ⟨calls, hrun, hy, -, hs⟩ := (w.run out).run_recorded (Sink.ofMemory disk) [] m
  rw [h] at hrun hy hs
  have hm' : m' = calls.foldl Memory.accept m := hs _ (Memory.changesBy_accept disk)
  have hgenerated : report.generated = (Call.written calls).map (·.1) := generated_eq_written hy
  have hfiles : m'.files = Keyed.update m.files (Call.written calls) := by
    rw [hm', Memory.foldl_accept_files]
  have hread (p : Path) : m'.read? p = (Keyed.last? p (Call.written calls)).or (m.read? p) := by
    unfold Memory.read?
    rw [hfiles, Keyed.get?_update]
  refine ⟨calls, hrun, hgenerated, hfiles, hread, ?_, ?_, ?_⟩
  · intro p hp
    rw [hgenerated] at hp
    rw [hread, Keyed.last?_eq_none hp, Option.none_or]
  · intro p hp
    rw [hm', Memory.hasDirectory, Memory.foldl_accept_known]
    simp only [Memory.hasDirectory, decide_eq_true_eq] at hp ⊢
    exact List.mem_append_right _ hp
  · rw [hm', Memory.foldl_accept_directories]
    exact List.prefix_append _ _

/-- The sample in a store that refuses one of its files. -/
theorem generated_reports_writes_sample : ∃ calls report m',
    (sample.run (.ofString "out")).run (Sink.ofMemory {}) { refused := ["Cart.dart"] } =
        (.ok report, m') ∧
      report.generated = (Call.written calls).map (·.1) ∧
      report.generated.map Path.text = ["out/shop/__init__.dart", "out/shop/parts/__init__.dart",
        "out/shop/parts/Bolt.dart", "out/shop/Size.dart"] ∧
      m'.files = Keyed.update [] (Call.written calls) := by
  have h : (((sample.run (.ofString "out")).run (Sink.ofMemory {})
      { refused := ["Cart.dart"] }).1.toOption.map fun r => r.generated.map Path.text) =
        some ["out/shop/__init__.dart", "out/shop/parts/__init__.dart",
          "out/shop/parts/Bolt.dart", "out/shop/Size.dart"] := by decide +kernel
  cases hr : (sample.run (.ofString "out")).run (Sink.ofMemory {}) { refused := ["Cart.dart"] } with
  | mk result m' =>
    rw [hr] at h
    rcases result with t | report
    · cases h
    · obtain ⟨calls, -, hg, hf, -⟩ := generated_reports_writes sample _ {} hr
      exact ⟨calls, report, m', rfl, hg, Option.some.inj h, hf⟩

end UmlPress.Emit.Workshop
