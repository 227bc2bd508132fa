import UmlPress.Proofs.Writes

/-!
# What a run reports as made

A package makes its directory first and writes its marker next, and only a
package that has both is put into the report. A directory whose marker was
refused stays in the store, and what is reported of it is the failure of the
package. So the directories of a report are all that were made just if no marker
was refused.
-/
namespace UmlPress.Emit

/-- A directory that was made, and the call that came right after it. -/
structure Housing where
  directory : Path
  marker : Path
  answer : Answer

namespace Housing

/-- The directory, if its marker was written. -/
def kept? (x : Housing) : Option Path := x.answer.toOption.map fun _ => x.directory

def refusal? (x : Housing) : Option Trouble :=
  match x.answer with
  | .ok _ => none
  | .error t => some t

theorem isSome_kept? {x : Housing} : x.kept?.isSome = true ↔ x.answer = .ok () := by
  obtain ⟨p, q, t | ⟨⟨⟩⟩⟩ := x <;> simp [kept?, Except.toOption]

theorem eq_of_kept? {x : Housing} {p : Path} (h : x.kept? = some p) : p = x.directory := by
  obtain ⟨a, -, rfl⟩ := Option.map_eq_some_iff.1 h
  rfl

end Housing

namespace Call

/-- The directories that were made, each with the write that followed. -/
def housings : List Call → List Housing
  | .makeDirectory p (.ok _) :: .write q _ answer :: r => ⟨p, q, answer⟩ :: housings r
  | _ :: r => housings r
  | [] => []

@[simp] theorem housings_nil : housings [] = [] := rfl

@[simp] theorem housings_write (p : Path) (content : String) (answer : Answer)
    (calls : List Call) : housings (.write p content answer :: calls) = housings calls := rfl

@[simp] theorem housings_makeDirectory_error (p : Path) (t : Trouble) (calls : List Call) :
    housings (.makeDirectory p (.error t) :: calls) = housings calls := rfl

@[simp] theorem housings_housed (p q : Path) (content : String) (answer : Answer)
    (calls : List Call) :
    housings (.makeDirectory p (.ok ()) :: .write q content answer :: calls) =
      ⟨p, q, answer⟩ :: housings calls := rfl

/-- Calls that end with no directory still to be given its marker. What comes
after them does not change how their directories are told. -/
structure Settled (w : Workshop) (calls : List Call) : Prop where
  append : ∀ rest, housings (calls ++ rest) = housings calls ++ housings rest
  made : made calls = (housings calls).map (·.directory)
  marker : ∀ x ∈ housings calls, x.marker = w.marker x.directory

namespace Settled
variable {w : Workshop} {calls rest : List Call}

theorem nil : Settled w [] := ⟨fun _ => rfl, rfl, by simp⟩

theorem write (p : Path) (content : String) (answer : Answer) :
    Settled w [.write p content answer] := ⟨fun _ => rfl, rfl, by simp⟩

theorem unmade (p : Path) (t : Trouble) : Settled w [.makeDirectory p (.error t)] :=
  ⟨fun _ => rfl, rfl, by simp⟩

theorem housed (p : Path) (content : String) (answer : Answer) (h : Settled w rest) :
    Settled w (.makeDirectory p (.ok ()) :: .write (w.marker p) content answer :: rest) where
  append after := by
    show _ :: housings (rest ++ after) = _ :: (housings rest ++ housings after)
    rw [h.append]
  made := by
    show p :: Call.made rest = p :: (housings rest).map (·.directory)
    rw [h.made]
  marker := by
    show ∀ x ∈ _ :: housings rest, _
    exact List.forall_mem_cons.2 ⟨rfl, h.marker⟩

theorem concat (h : Settled w calls) (h' : Settled w rest) : Settled w (calls ++ rest) where
  append after := by
    rw [List.append_assoc, h.append, h'.append, h.append, List.append_assoc]
  made := by
    rw [h.append, List.map_append, ← h.made, ← h'.made, made_append]
  marker := by
    rw [h.append]
    exact List.forall_mem_append.2 ⟨h.marker, h'.marker⟩

end Settled
end Call

namespace Workshop
variable {w : Workshop} {base full : Path} {supply supply' : Supply} {calls : List Call}
  {result : Except Trouble Report} {steps : List Nat} {number : Nat} {below : List Visit}

/-- How a report tells of directories: those with a marker are listed, and each
refusal of a marker is the fault of some failure, in the same order. -/
structure Housed (calls : List Call) (directories : List Path) (failures : List Failure) : Prop where
  directories : directories = (Call.housings calls).filterMap Housing.kept?
  refusals : ((Call.housings calls).filterMap Housing.refusal?).Sublist
    (failures.map fun f => Trouble.fault f.fault)

/-- What a part of a run leaves of directories: all that the report tells, or on
a fault none that is kept, and at most one whose marker met that fault. -/
def Leaves (calls : List Call) : Except Trouble Report → Prop
  | .ok report => Housed calls report.directories report.failures
  | .error (.fault f) => (Call.housings calls).filterMap Housing.kept? = [] ∧
      ((Call.housings calls).filterMap Housing.refusal?).Sublist [.fault f]
  | .error _ => True

theorem Housed.append {rest : List Call} {ds ds' : List Path} {fs fs' : List Failure}
    (hc : Call.Settled w calls) (h : Housed calls ds fs) (h' : Housed rest ds' fs') :
    Housed (calls ++ rest) (ds ++ ds') (fs ++ fs') where
  directories := by rw [hc.append, List.filterMap_append, h.directories, h'.directories]
  refusals := by
    rw [hc.append, List.filterMap_append, List.map_append]
    exact h.refusals.append h'.refusals

theorem leaves_of_housings_eq_nil {t : Trouble} (h : Call.housings calls = []) :
    Leaves calls (.error t) := by
  cases t <;> simp [Leaves, h]

/-- An element that is no package makes no directory. -/
theorem leaves_leaf {facts : Facts} {shape : Shape} {owned : List Element} (hs : shape ≠ .package)
    (h : (w.emit base supply (.node facts shape owned)).Yields calls (result, supply')) :
    Call.Settled w calls ∧ Leaves calls result := by
  rcases yields_leaf hs h with ⟨rfl, ⟨t, rfl⟩ | ⟨-, rfl⟩⟩ | ⟨text, name, answer, -, -, rfl, rfl⟩
  · exact ⟨.nil, leaves_of_housings_eq_nil rfl⟩
  · exact ⟨.nil, rfl, List.nil_sublist _⟩
  · refine ⟨.write _ _ _, ?_⟩
    cases answer with
    | error t => exact leaves_of_housings_eq_nil rfl
    | ok _ => exact ⟨rfl, List.nil_sublist _⟩

/-- The directories of what is owned are told on top of the report so far, and
no fault of an owned element gets out. -/
theorem leaves_tourOwned {report : Report} {es : List Element}
    (ih : ∀ e ∈ es, ∀ steps supply calls result supply' below,
      (w.tour full steps supply e).Yields calls ((result, supply'), below) →
        Call.Settled w calls ∧ Leaves calls result)
    (h : (w.tourOwned full steps number supply report es).Yields calls
      ((result, supply'), below)) :
    Call.Settled w calls ∧ (∀ f, result ≠ .error (.fault f)) ∧
      ∀ all, result = .ok all → ∃ directories faults,
        all.directories = report.directories ++ directories ∧
        all.failures = report.failures ++ faults ∧ Housed calls directories faults := by
  induction es generalizing number supply report calls below with
  | nil =>
    obtain ⟨rfl, rfl, -⟩ := yields_tourOwned_nil h
    refine ⟨.nil, by simp, ?_⟩
    rintro all ⟨⟩
    exact ⟨[], [], by simp, by simp, rfl, List.nil_sublist _⟩
  | cons e r ihr =>
    obtain ⟨first, rest, next, supplyNext, inside, ending, rfl, he, h⟩ := yields_tourOwned_cons h
    obtain ⟨hsettled, hleaves⟩ := ih e List.mem_cons_self _ _ _ _ _ _ he
    rcases h with ⟨t, -, rfl, rfl, ht, -, -⟩ | ⟨report', after, -, hrest, h⟩
    · exact ⟨hsettled.concat .nil, by simpa using ht, by simp⟩
    · obtain ⟨hafter, hnot, hrest⟩ := ihr (fun e he => ih e (List.mem_cons_of_mem _ he)) hrest
      refine ⟨hsettled.concat hafter, hnot, fun all hall => ?_⟩
      obtain ⟨directories, faults, hds, hfs, hhoused⟩ := hrest all hall
      rcases h with ⟨more, rfl, -, rfl⟩ | ⟨f, place, rfl, -, -, rfl⟩
      · refine ⟨more.directories ++ directories, more.failures ++ faults, ?_, ?_,
          hleaves.append hsettled hhoused⟩
        · rw [hds, ← List.append_assoc]
          rfl
        · rw [hfs, ← List.append_assoc]
          rfl
      · have hfailed : Housed first [] [⟨place, f⟩] := ⟨hleaves.1.symm, hleaves.2⟩
        refine ⟨directories, ⟨place, f⟩ :: faults, hds, ?_, hfailed.append hsettled hhoused⟩
        rw [hfs]
        exact List.append_assoc report.failures [⟨place, f⟩] faults

theorem leaves_tour {e : Element}
    (h : (w.tour base steps supply e).Yields calls ((result, supply'), below)) :
    Call.Settled w calls ∧ Leaves calls result := by
  induction e generalizing base steps supply calls result supply' below with
  | node facts shape owned ih =>
    by_cases hs : shape = .package
    · subst hs
      rcases yields_tour_package h with ⟨t, rfl, rfl, -⟩ | ⟨full, -, ⟨t, rfl, rfl, -⟩ |
        ⟨t, rfl, rfl, -⟩ | ⟨rest, rfl, hrest⟩⟩
      · exact ⟨.nil, leaves_of_housings_eq_nil rfl⟩
      · exact ⟨.unmade _ _, leaves_of_housings_eq_nil rfl⟩
      · refine ⟨.housed full "" _ .nil, ?_⟩
        cases t with
        | fault f => exact ⟨rfl, List.Sublist.refl _⟩
        | _ => trivial
      · obtain ⟨hsettled, hnot, hok⟩ := leaves_tourOwned (fun e he _ _ _ _ _ _ => ih e he) hrest
        refine ⟨.housed full "" _ hsettled, ?_⟩
        rcases result with t | report
        · cases t with
          | fault f => exact absurd rfl (hnot f)
          | _ => trivial
        · obtain ⟨directories, faults, hds, hfs, hhoused⟩ := hok report rfl
          show Housed _ _ _
          rw [hds, hfs]
          exact ⟨congrArg (full :: ·) hhoused.directories, hhoused.refusals⟩
    · obtain ⟨-, he⟩ := yields_tour_leaf hs h
      exact leaves_leaf hs he

theorem leaves_run {out : Path} {report : Report} (h : (w.run out).Yields calls (.ok report)) :
    Call.Settled w calls ∧ Housed calls report.directories report.failures := by
  obtain ⟨visits, htour⟩ := exists_visits h
  obtain ⟨next, supplyNext, inside, ending, he, -, hend⟩ := yields_runTour htour
  obtain ⟨hsettled, hleaves⟩ := leaves_tour he
  refine ⟨hsettled, ?_⟩
  rcases hend with ⟨t, -, hr, -⟩ | ⟨more, rfl, -, hr⟩ | ⟨f, place, rfl, -, -, hr⟩
  · cases hr
  · cases hr
    exact hleaves
  · cases hr
    exact ⟨hleaves.1.symm, hleaves.2⟩

/-- The directories of the store after a run are those from before and those that
the run made, each of them followed by the write of its marker. The report lists
the ones whose marker was written and has a failure for each of the others, so it
lists all just if no marker was refused. -/
theorem directories_reported_iff (w : Workshop) (out : Path) (disk : Disk) {m m' : Memory}
    {report : Report} (h : (w.run out).run (Sink.ofMemory disk) m = (.ok report, m')) :
    ∃ calls, ((w.run out).run (Sink.ofMemory disk).recorded).run [] m =
        ((.ok report, calls), m') ∧
      m'.directories = m.directories ++ (Call.housings calls).map (·.directory) ∧
      (∀ x ∈ Call.housings calls, x.marker = w.marker x.directory) ∧
      report.directories = (Call.housings calls).filterMap Housing.kept? ∧
      ((Call.housings calls).filterMap Housing.refusal?).Sublist
        (report.failures.map fun f => Trouble.fault f.fault) ∧
      (m'.directories = m.directories ++ report.directories ↔
        ∀ x ∈ Call.housings calls, x.answer = .ok ()) := by
  obtain ⟨calls, hrun, hy, -, hs⟩ := (w.run out).run_recorded (Sink.ofMemory disk) [] m
  rw [h] at hrun hy hs
  obtain ⟨hsettled, hhoused⟩ := leaves_run hy
  have hfinal : m' = calls.foldl Memory.accept m := hs _ (Memory.changesBy_accept disk)
  have hm' : m'.directories = m.directories ++ (Call.housings calls).map (·.directory) := by
    rw [hfinal, Memory.foldl_accept_directories, hsettled.made]
  refine ⟨calls, hrun, hm', hsettled.marker, hhoused.directories, hhoused.refusals, ?_⟩
  rw [hm', List.append_cancel_left_eq, hhoused.directories]
  constructor
  · intro heq x hx
    have hlength : ((Call.housings calls).filterMap Housing.kept?).length =
        (Call.housings calls).length := by
      rw [← heq, List.length_map]
    exact Housing.isSome_kept?.1 (List.filterMap_length_eq_length.1 hlength x hx)
  · intro hok
    rw [← List.filterMap_eq_map]
    refine List.filterMap_congr fun x hx => ?_
    obtain ⟨p, hp⟩ := Option.isSome_iff_exists.1 (Housing.isSome_kept?.2 (hok x hx))
    rw [hp, Housing.eq_of_kept? hp]
    rfl

/-- The sample in a store with a directory where the marker of a package is to
go: the package has its directory, but the report does not have it. -/
theorem directories_reported_iff_sample : ∃ calls report m',
    ((sample.run (.ofString "out")).run (Sink.ofMemory {}).recorded).run []
        { directories := [.ofString "out/shop/parts/__init__.dart"]
          known := [.ofString "out/shop/parts/__init__.dart"] } = ((.ok report, calls), m') ∧
      m'.directories.map Path.text =
        ["out/shop/parts/__init__.dart", "out/shop", "out/shop/parts"] ∧
      report.directories.map Path.text = ["out/shop"] ∧
      ¬ ∀ x ∈ Call.housings calls, x.answer = .ok () := by
  let m : Memory :=
    { directories := [.ofString "out/shop/parts/__init__.dart"]
      known := [.ofString "out/shop/parts/__init__.dart"] }
  let ended := (sample.run (.ofString "out")).run (Sink.ofMemory {}) m
  have hstore : ended.2.directories.map Path.text =
      ["out/shop/parts/__init__.dart", "out/shop", "out/shop/parts"] := by decide +kernel
  have hreport : (ended.1.toOption.map fun r => r.directories.map Path.text) =
      some ["out/shop"] := by decide +kernel
  cases hr : ended with
  | mk result m' =>
    rw [hr] at hstore hreport
    rcases result with t | report
    · cases hreport
    · obtain ⟨calls, hrun, -, -, -, -, hiff⟩ := directories_reported_iff sample _ {} hr
      have hdirectories : report.directories.map Path.text = ["out/shop"] := Option.some.inj hreport
      refine ⟨calls, report, m', hrun, hstore, hdirectories, fun hok => ?_⟩
      have hall := congrArg (List.map Path.text) (hiff.2 hok)
      rw [List.map_append, hstore, hdirectories] at hall
      cases hall

/-- A store that refuses markers is left with a directory that is in no report. -/
theorem refused_marker_directory_unreported : ∃ report m',
    (sample.run (.ofString "out")).run (Sink.ofMemory {}) { refused := ["__init__.dart"] } =
        (.ok report, m') ∧
      m'.directories.map Path.text = ["out/shop"] ∧ report.directories.map Path.text = [] ∧
      m'.directories ≠ [] ++ report.directories := by
  let ended := (sample.run (.ofString "out")).run (Sink.ofMemory {}) { refused := ["__init__.dart"] }
  have hstore : ended.2.directories.map Path.text = ["out/shop"] := by decide +kernel
  have hreport : (ended.1.toOption.map fun r => r.directories.map Path.text) = some [] := by
    decide +kernel
  cases hr : ended with
  | mk result m' =>
    rw [hr] at hstore hreport
    rcases result with t | report
    · cases hreport
    · have hdirectories : report.directories.map Path.text = [] := Option.some.inj hreport
      refine ⟨report, m', hr, hstore, hdirectories, fun heq => ?_⟩
      rw [heq, List.nil_append, hdirectories] at hstore
      cases hstore

end Workshop
end UmlPress.Emit
