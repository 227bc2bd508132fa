import UmlPress.Proofs.Account
import UmlPress.Proofs.DryRun
import UmlPress.Proofs.Steady

/-!
# Lost pages

A class, an interface or an enumeration that fails in a run on a store in memory
leaves no trace but its failure: the run over the model in which something else
stands in for all of them ends with the same store and, but for these failures,
with the same report. What is composed for the other elements does not depend on
them, and a page that fails has written nothing.
-/
namespace UmlPress

def Element.hasPage (e : Element) : Bool :=
  match e.shape with
  | .classifier _ _ _ => true
  | .enumeration _ => true
  | _ => false

namespace Emit

def Visit.failure? (v : Visit) : Option Failure :=
  match v.ending with
  | .failed f => some f
  | _ => none

def Visit.isLost (v : Visit) : Bool := v.hasFailed && v.spot.element.hasPage

def lostAt (visits : List Visit) (standIn : Spot → Json × Json) : Mask := fun steps =>
  (visits.find? fun v => v.isLost && v.spot.steps == steps).map fun v => standIn v.spot

/-- At the place of a visit something stands in if the element was lost there. -/
theorem isSome_lostAt {visits : List Visit} (h : (visits.map (·.spot.steps)).Nodup)
    (standIn : Spot → Json × Json) {v : Visit} (hv : v ∈ visits) :
    (lostAt visits standIn v.spot.steps).isSome = v.isLost := by
  rw [Bool.eq_iff_iff, lostAt, Option.isSome_map, List.find?_isSome]
  constructor
  · rintro ⟨u, hu, hlost⟩
    rw [Bool.and_eq_true, beq_iff_eq] at hlost
    rw [← List.inj_on_of_nodup_map h hu hv hlost.2]
    exact hlost.1
  · intro hlost
    exact ⟨v, hv, by simp [hlost]⟩

/-- Two runs agree but for the failures of lost elements: the first one reports
the failures of all its visits. -/
def Spares (visits : List Visit) : Except Trouble Report → Except Trouble Report → Prop
  | .ok report, r' => ∃ report', r' = .ok report' ∧
      report'.generated = report.generated ∧ report'.directories = report.directories ∧
      report.failures = visits.filterMap (·.failure?) ∧
      report'.failures = (visits.filter fun v => !v.isLost).filterMap (·.failure?)
  | .error t, r' => r' = .error t

namespace Spares
variable {vs ws : List Visit} {a a' b b' : Report}

theorem exists_ok {r' : Except Trouble Report} (h : Spares vs (.ok a) r') : ∃ a', r' = .ok a' := by
  obtain ⟨a', rfl, -⟩ := h
  exact ⟨a', rfl⟩

theorem append (h : Spares vs (.ok a) (.ok a')) (h' : Spares ws (.ok b) (.ok b')) :
    Spares (vs ++ ws) (.ok (a ++ b)) (.ok (a' ++ b')) := by
  obtain ⟨_, ⟨⟩, hgenerated, hdirectories, hfailures, hrest⟩ := h
  obtain ⟨_, ⟨⟩, hgenerated', hdirectories', hfailures', hrest'⟩ := h'
  refine ⟨_, rfl, ?_, ?_, ?_, ?_⟩
  · rw [Report.append_def, Report.append_def, hgenerated, hgenerated']
  · rw [Report.append_def, Report.append_def, hdirectories, hdirectories']
  · rw [Report.append_def, hfailures, hfailures', List.filterMap_append]
  · rw [Report.append_def, hrest, hrest', List.filter_append, List.filterMap_append]

/-- A report without failures of a part without visits. -/
theorem plain {report : Report} (h : report.failures = []) :
    Spares [] (.ok report) (.ok report) := ⟨report, rfl, rfl, rfl, h, h⟩

/-- A visit that did not fail adds nothing to what came of those below it. -/
theorem unfailed {r r' : Except Trouble Report} {v : Visit} (hv : v.hasFailed = false)
    (h : Spares vs r r') : Spares (v :: vs) r r' := by
  cases r with
  | error t => exact h
  | ok report =>
    obtain ⟨report', rfl, hgenerated, hdirectories, hfailures, hrest⟩ := h
    have hnone : v.failure? = none := by
      unfold Visit.hasFailed at hv
      unfold Visit.failure?
      cases hending : v.ending <;> simp_all
    have hlost : v.isLost = false := by rw [Visit.isLost, hv, Bool.false_and]
    refine ⟨report', rfl, hgenerated, hdirectories, ?_, ?_⟩
    · rw [List.filterMap_cons_none hnone, hfailures]
    · rw [List.filter_cons_of_pos (by rw [hlost]; rfl), List.filterMap_cons_none hnone, hrest]

theorem failed {v : Visit} {place : String} {f : Fault} (hf : v.ending = .failed ⟨place, f⟩) :
    Spares [v] (.ok (({} : Report).fail place f))
      (.ok (if v.isLost then {} else ({} : Report).fail place f)) := by
  refine ⟨_, rfl, by split <;> rfl, by split <;> rfl, ?_, ?_⟩
  · simp [Visit.failure?, hf, Report.fail]
  · cases hlost : v.isLost <;> simp [Visit.failure?, hf, hlost, Report.fail]

end Spares

theorem Report.fail_eq (r : Report) (place : String) (f : Fault) :
    r.fail place f = r ++ ({} : Report).fail place f := by
  simp [Report.fail, Report.append_def]

namespace Workshop
variable {w : Workshop} {mask : Mask} {base full : Path} {supply supply' next : Supply}
  {steps : List Nat} {number : Nat} {below : List Visit} {m m' : Memory} {calls : List Call}
  {result : Except Trouble Report} {report : Report}

/-! Runs over a model and over one with struck elements. -/

/-- A page ends alike in both runs. If it fails, the store is as before. -/
theorem ends_emitFile (mask : Mask) (base : Path) (supply supply' : Supply) (m : Memory)
    (hd : directory? w.options = none) (disk : Disk) {compose : Composing Unit}
    (hc : compose.Steady none fun _ => True) {e e' : Element} (hname : e'.name = e.name) :
    ∃ r next next' m',
      (w.emitFile base supply e compose).run (Sink.ofMemory disk) m = ((r, next), m') ∧
      ((w.strike mask).emitFile base supply' e' compose).run (Sink.ofMemory disk) m =
        ((r, next'), m') ∧
      ((∃ t, r = .error t) ∧ m' = m ∨ ∃ path, r = .ok { generated := [path] }) := by
  have hpage : ((w.strike mask).page (.ok none) supply' compose).1 =
      (w.page (.ok none) supply compose).1 :=
    (w.page_of_steady hc supply'.fits_none supply.fits_none).1
  have hfile : (w.strike mask).fileName e' = w.fileName e := by
    unfold fileName
    rw [hname]
    rfl
  have hd' : directory? (w.strike mask).options = none := hd
  unfold emitFile looking
  rw [hd, hd']
  simp only [Plan.run_noteAll (isQuiet_ofMemory disk), hpage, hfile]
  cases (w.page (.ok none) supply compose).1 with
  | error t => exact ⟨_, _, _, _, rfl, rfl, .inl ⟨⟨t, rfl⟩, rfl⟩⟩
  | ok text =>
    cases w.fileName e with
    | error t => exact ⟨_, _, _, _, rfl, rfl, .inl ⟨⟨_, rfl⟩, rfl⟩⟩
    | ok name =>
      simp only [Plan.run_write, Memory.ofMemory_write]
      cases m.write (base.child name) text with
      | error f => exact ⟨_, _, _, _, rfl, rfl, .inl ⟨⟨_, rfl⟩, rfl⟩⟩
      | ok written => exact ⟨_, _, _, _, rfl, rfl, .inr ⟨_, rfl⟩⟩

/-- So does an element that is no package. -/
theorem ends_leaf (mask : Mask) (base : Path) (supply supply' : Supply) (m : Memory)
    (hd : directory? w.options = none) (disk : Disk) (facts : Facts) {shape : Shape}
    (owned owned' : List Element) (hs : shape ≠ .package) :
    ∃ r next next' m',
      (w.emit base supply (.node facts shape owned)).run (Sink.ofMemory disk) m =
        ((r, next), m') ∧
      ((w.strike mask).emit base supply' (.node facts shape owned')).run (Sink.ofMemory disk) m =
        ((r, next'), m') ∧
      ((∃ t, r = .error t) ∧ m' = m ∨ ∃ report, r = .ok report ∧ report.failures = []) := by
  have hfile {compose : Composing Unit} (hc : compose.Steady none fun _ => True) : ∃ r next next' m',
      (w.emitFile base supply (.node facts shape owned) compose).run (Sink.ofMemory disk) m =
        ((r, next), m') ∧
      ((w.strike mask).emitFile base supply' (.node facts shape owned') compose).run
        (Sink.ofMemory disk) m = ((r, next'), m') ∧
      ((∃ t, r = .error t) ∧ m' = m ∨ ∃ report, r = .ok report ∧ report.failures = []) := by
    have hname : (Element.node facts shape owned').name =
        (Element.node facts shape owned).name := rfl
    obtain ⟨r, next, next', m', hrun, hrun', hend⟩ :=
      ends_emitFile mask base supply supply' m hd disk hc hname
    refine ⟨r, next, next', m', hrun, hrun', hend.imp_right ?_⟩
    rintro ⟨path, rfl⟩
    exact ⟨_, rfl, rfl⟩
  cases shape with
  | package => exact absurd rfl hs
  | classifier isInterface attributes operations =>
    rw [emit, emit, writeClass_strike owned]
    exact hfile (w.steady_writeClass (Composing.covers_all none) rfl (.inr fun _ => trivial))
  | enumeration literals =>
    rw [emit, emit]
    exact hfile (w.steady_writeEnum (Composing.covers_all none) rfl (.inr fun _ => trivial))
  | other type =>
    rw [emit, emit, Plan.run_note (isQuiet_ofMemory disk), Plan.run_note (isQuiet_ofMemory disk)]
    exact ⟨_, _, _, _, rfl, rfl, .inr ⟨_, rfl, rfl⟩⟩
  | unsupported =>
    rw [emit, emit]
    exact ⟨_, _, _, _, rfl, rfl, .inl ⟨⟨_, rfl⟩, rfl⟩⟩

theorem run_tour_leaf (disk : Disk) {facts : Facts} {shape : Shape} {owned : List Element}
    (hs : shape ≠ .package) :
    (w.tour base steps supply (.node facts shape owned)).run (Sink.ofMemory disk) m =
      ((((w.emit base supply (.node facts shape owned)).run (Sink.ofMemory disk) m).1, []),
        ((w.emit base supply (.node facts shape owned)).run (Sink.ofMemory disk) m).2) := by
  rw [tour]
  · exact Plan.run_map _ _ _ m
  · exact hs

/-- A page that fails leaves the store as it is. -/
theorem store_of_lost (hd : directory? w.options = none) (disk : Disk) {e : Element} {t : Trouble}
    (he : e.hasPage = true) (h : (w.tour base steps supply e).run (Sink.ofMemory disk) m =
      (((.error t, next), below), m')) : m' = m := by
  obtain ⟨facts, shape, owned⟩ := e
  have hs : shape ≠ .package := by
    rintro rfl
    cases he
  obtain ⟨r, _, _, m₁, hrun, -, hend⟩ :=
    ends_leaf (fun _ => none) base supply supply m hd disk facts owned owned hs
  rw [run_tour_leaf disk hs, hrun] at h
  cases h
  rcases hend with ⟨-, rfl⟩ | ⟨report, hr, -⟩
  · rfl
  · cases hr

def SparesTour (w : Workshop) (mask : Mask) (disk : Disk) (e : Element) : Prop :=
  ∀ ⦃base : Path⦄ ⦃steps : List Nat⦄ ⦃supply next : Supply⦄ (supply' : Supply) ⦃m m' : Memory⦄
    ⦃result : Except Trouble Report⦄ ⦃below : List Visit⦄, mask steps = none →
    (w.tour base steps supply e).run (Sink.ofMemory disk) m = (((result, next), below), m') →
    (∀ v ∈ below, (mask v.spot.steps).isSome = v.isLost) →
    ∃ result' next', ((w.strike mask).emit base supply' (e.strike mask steps)).run
        (Sink.ofMemory disk) m = ((result', next'), m') ∧ Spares below result result'

theorem displayPath_strike (steps : List Nat) (e : Element) :
    (w.strike mask).snapshot.displayPath (e.strike mask steps) = w.snapshot.displayPath e :=
  (w.snapshot.like_strike mask).displayPath (Element.id_strike _ _ _) (Element.name_strike _ _ _)

/-- A fault of an element with a visit of its own, in both runs: the element was
lost and nothing is generated in its place, or it fails again. -/
theorem spares_fault (hd : directory? w.options = none) (disk : Disk) {e : Element}
    (he : w.SparesTour mask disk e) (supply' : Supply) {f : Fault} {place : String}
    (hrun : (w.tour base steps supply e).run (Sink.ofMemory disk) m =
      (((.error (.fault f), next), below), m'))
    (hlost : (mask steps).isSome = (⟨⟨steps, e⟩, base, .failed ⟨place, f⟩⟩ : Visit).isLost) :
    below = [] ∧ ∃ next',
      ((w.strike mask).emit base supply' (e.strike mask steps)).run (Sink.ofMemory disk) m =
        ((if (mask steps).isSome then .ok {} else .error (.fault f), next'), m') := by
  obtain ⟨calls, hyields⟩ := Plan.yields_of_run hrun
  obtain ⟨rfl, -, -⟩ : w.Told base steps e calls below (.error (.fault f)) := told_tour hyields
  refine ⟨rfl, ?_⟩
  cases hmask : mask steps with
  | none =>
    obtain ⟨result', next', hrun', hspares⟩ := he supply' hmask hrun (by simp)
    obtain rfl : result' = .error (.fault f) := hspares
    exact ⟨next', hrun'⟩
  | some standIn =>
    rw [hmask] at hlost
    obtain rfl := store_of_lost hd disk (Bool.and_eq_true_iff.1 hlost.symm).2 hrun
    obtain ⟨facts, type, owned, hstruck⟩ := e.strike_of_isSome mask steps (by simp [hmask])
    rw [hstruck, emit, Plan.run_note (isQuiet_ofMemory disk)]
    exact ⟨supply', rfl⟩

/-- An element with a visit that did not fail, in both runs. -/
theorem spares_unfailed {disk : Disk} {e : Element} {ending : Ending}
    (he : w.SparesTour mask disk e) (supply' : Supply)
    (hrun : (w.tour base steps supply e).run (Sink.ofMemory disk) m =
      (((result, next), below), m'))
    (hmask : ∀ v ∈ (⟨⟨steps, e⟩, base, ending⟩ : Visit) :: below,
      (mask v.spot.steps).isSome = v.isLost)
    (hending : (⟨⟨steps, e⟩, base, ending⟩ : Visit).hasFailed = false) :
    ∃ result' next', ((w.strike mask).emit base supply' (e.strike mask steps)).run
        (Sink.ofMemory disk) m = ((result', next'), m') ∧
      Spares (⟨⟨steps, e⟩, base, ending⟩ :: below) result result' := by
  rw [List.forall_mem_cons] at hmask
  have hnone : mask steps = none := by
    have hsome := hmask.1
    rw [Visit.isLost, hending, Bool.false_and] at hsome
    simpa using hsome
  obtain ⟨result', next', hrun', hspares⟩ := he supply' hnone hrun hmask.2
  exact ⟨result', next', hrun', hspares.unfailed hending⟩

def SparesOwned (w : Workshop) (mask : Mask) (disk : Disk) (full : Path) (steps : List Nat)
    (number : Nat) (es : List Element) : Prop :=
  ∀ ⦃supply next : Supply⦄ (supply' : Supply) ⦃m m' : Memory⦄ ⦃report report' : Report⦄
    ⦃before below : List Visit⦄ ⦃result : Except Trouble Report⦄,
    Spares before (.ok report) (.ok report') →
    (w.tourOwned full steps number supply report es).run (Sink.ofMemory disk) m =
      (((result, next), below), m') →
    (∀ v ∈ below, (mask v.spot.steps).isSome = v.isLost) →
    ∃ result' next', ((w.strike mask).emitOwned full supply' report'
        (Element.strikeAll mask steps number es)).run (Sink.ofMemory disk) m =
          ((result', next'), m') ∧ Spares (before ++ below) result result'

/-- After a failed element the rest goes on in both runs, in the second one without
the failure if the element was lost. -/
theorem spares_rest_of_fault (hd : directory? w.options = none) (disk : Disk) {e : Element}
    {r : List Element} (he : w.SparesTour mask disk e)
    (hr : w.SparesOwned mask disk full steps (number + 1) r) {report' : Report}
    {before inside after : List Visit} (hbefore : Spares before (.ok report) (.ok report'))
    (supply' : Supply) {supplyNext : Supply} {m₁ : Memory} {f : Fault} {place : String}
    (hplace : w.snapshot.displayPath e = .ok place)
    (hfirst : (w.tour full (number :: steps) supply e).run (Sink.ofMemory disk) m =
      (((.error (.fault f), supplyNext), inside), m₁))
    (hafter : (w.tourOwned full steps (number + 1) supplyNext (report.fail place f) r).run
      (Sink.ofMemory disk) m₁ = (((result, next), after), m'))
    (hmask : ∀ v ∈ (⟨⟨number :: steps, e⟩, full, .failed ⟨place, f⟩⟩ : Visit) :: (inside ++ after),
      (mask v.spot.steps).isSome = v.isLost) :
    ∃ result' next', ((w.strike mask).emitOwned full supply' report'
        (Element.strikeAll mask steps number (e :: r))).run (Sink.ofMemory disk) m =
          ((result', next'), m') ∧
      Spares (before ++ ⟨⟨number :: steps, e⟩, full, .failed ⟨place, f⟩⟩ :: (inside ++ after))
        result result' := by
  rw [List.forall_mem_cons] at hmask
  obtain ⟨rfl, next', hrun'⟩ := spares_fault hd disk he supply' hfirst hmask.1
  have hnext := hbefore.append (Spares.failed
    (v := ⟨⟨number :: steps, e⟩, full, .failed ⟨place, f⟩⟩) rfl)
  rw [← Report.fail_eq, ← hmask.1] at hnext
  obtain ⟨result', last', hrest, hspares⟩ := hr next' hnext hafter hmask.2
  refine ⟨result', last', ?_, by simpa using hspares⟩
  rw [Element.strikeAll, emitOwned, Plan.run_bind_apply, hrun']
  cases hstruck : (mask (number :: steps)).isSome with
  | true => simpa [hstruck] using hrest
  | false =>
    simp only [hstruck, Bool.false_eq_true, if_false, ← Report.fail_eq] at hrest
    simp only [Bool.false_eq_true, if_false, displayPath_strike, hplace]
    rw [Plan.run_note (isQuiet_ofMemory disk)]
    exact hrest

theorem spares_tourOwned (hd : directory? w.options = none) (disk : Disk) {es : List Element}
    (ih : ∀ e ∈ es, w.SparesTour mask disk e) :
    w.SparesOwned mask disk full steps number es := by
  induction es generalizing number with
  | nil =>
    intro supply next supply' m m' report report' before below result hbefore hrun hmask
    cases hrun
    rw [List.append_nil]
    exact ⟨_, _, rfl, hbefore⟩
  | cons e r ihr =>
    intro supply next supply' m m' report report' before below result hbefore hrun hmask
    have he : w.SparesTour mask disk e := ih e List.mem_cons_self
    have hr : w.SparesOwned mask disk full steps (number + 1) r :=
      ihr fun e he => ih e (List.mem_cons_of_mem _ he)
    rw [tourOwned, Plan.run_bind_apply] at hrun
    rcases hfirst : (w.tour full (number :: steps) supply e).run (Sink.ofMemory disk) m with
      ⟨⟨⟨first, supplyNext⟩, inside⟩, m₁⟩
    rw [hfirst] at hrun
    rcases first with t | more
    · cases t with
      | fault f =>
        cases hplace : w.snapshot.displayPath e with
        | error misuse =>
          simp only [hplace] at hrun
          cases hrun
          obtain ⟨_, next', hrun', rfl⟩ := spares_unfailed he supply' hfirst hmask rfl
          rw [Element.strikeAll, emitOwned, Plan.run_bind_apply, hrun']
          simp only [displayPath_strike, hplace]
          exact ⟨_, _, rfl, rfl⟩
        | ok place =>
          simp only [hplace] at hrun
          rw [Plan.run_note (isQuiet_ofMemory disk), Plan.run_map] at hrun
          rcases hafter : (w.tourOwned full steps (number + 1) supplyNext (report.fail place f)
            r).run (Sink.ofMemory disk) m₁ with ⟨⟨⟨rest, supplyLast⟩, after⟩, m₂⟩
          rw [hafter] at hrun
          cases hrun
          exact spares_rest_of_fault hd disk he hr hbefore supply' hplace hfirst hafter hmask
      | _ =>
        cases hrun
        obtain ⟨_, next', hrun', rfl⟩ := spares_unfailed he supply' hfirst hmask rfl
        rw [Element.strikeAll, emitOwned, Plan.run_bind_apply, hrun']
        exact ⟨_, _, rfl, rfl⟩
    · rw [Plan.run_map] at hrun
      rcases hafter : (w.tourOwned full steps (number + 1) supplyNext (report ++ more)
        r).run (Sink.ofMemory disk) m₁ with ⟨⟨⟨rest, supplyLast⟩, after⟩, m₂⟩
      rw [hafter] at hrun
      cases hrun
      rw [List.forall_mem_append] at hmask
      obtain ⟨first', next', hrun', hspares⟩ := spares_unfailed he supply' hfirst hmask.1 rfl
      obtain ⟨more', rfl⟩ := hspares.exists_ok
      obtain ⟨result', last', hrest, hspares⟩ :=
        hr next' (hbefore.append hspares) hafter hmask.2
      refine ⟨result', last', ?_, by rwa [List.append_assoc] at hspares⟩
      rw [Element.strikeAll, emitOwned, Plan.run_bind_apply, hrun']
      exact hrest

/-- Nothing that an element reads tells what is struck out, and templates come from
stock whatever was supplied for the lost ones. -/
theorem spares_tour (hd : directory? w.options = none) (disk : Disk) (e : Element) :
    w.SparesTour mask disk e := by
  induction e with
  | node facts shape owned ih =>
    intro base steps supply next supply' m m' result below hnone hrun hmask
    rw [Element.strike_of_none mask steps hnone]
    by_cases hs : shape = .package
    · subst hs
      rw [tour] at hrun
      rw [emit]
      cases hpath : packagePath base facts.name with
      | error t =>
        rw [hpath] at hrun
        cases hrun
        exact ⟨_, _, rfl, rfl⟩
      | ok full =>
        rw [hpath] at hrun
        simp only [Plan.run_makeDirectory] at hrun ⊢
        generalize (Sink.ofMemory disk).makeDirectory full m = made at hrun ⊢
        rcases made with ⟨t | ⟨⟨⟩⟩, m₁⟩
        · cases hrun
          exact ⟨_, _, rfl, rfl⟩
        · have hmarker : (w.strike mask).marker full = w.marker full := rfl
          simp only [Plan.run_write, hmarker] at hrun ⊢
          generalize (Sink.ofMemory disk).write (w.marker full) "" m₁ = marked at hrun ⊢
          rcases marked with ⟨t | ⟨⟨⟩⟩, m₂⟩
          · cases hrun
            exact ⟨_, _, rfl, rfl⟩
          · exact spares_tourOwned hd disk ih supply' (Spares.plain rfl) hrun hmask
    · obtain ⟨r, next, next', m₁, hleaf, hleaf', hend⟩ := ends_leaf mask base supply supply' m hd
        disk facts owned (Element.strikeAll mask steps 0 owned) hs
      rw [run_tour_leaf disk hs, hleaf] at hrun
      cases hrun
      refine ⟨_, _, hleaf', ?_⟩
      rcases hend with ⟨⟨t, rfl⟩, -⟩ | ⟨report, rfl, hreport⟩
      · rfl
      · exact Spares.plain hreport

theorem spares_runTour (hd : directory? w.options = none) (disk : Disk) {out : Path}
    {visits : List Visit}
    (hrun : (w.runTour out).run (Sink.ofMemory disk) m = ((result, visits), m'))
    (hmask : ∀ v ∈ visits, (mask v.spot.steps).isSome = v.isLost) :
    ∃ result', ((w.strike mask).run out).run (Sink.ofMemory disk) m = (result', m') ∧
      Spares visits result result' := by
  have hbase : (w.strike mask).snapshot.base.element =
      w.snapshot.base.element.strike mask w.snapshot.base.steps := rfl
  have he : w.SparesTour mask disk w.snapshot.base.element := spares_tour hd disk _
  rw [runTour, Plan.run_bind_apply] at hrun
  rw [run, Plan.run_bind_apply, hbase]
  rcases hfirst : (w.tour out w.snapshot.base.steps {} w.snapshot.base.element).run
    (Sink.ofMemory disk) m with ⟨⟨⟨first, supplyNext⟩, inside⟩, m₁⟩
  rw [hfirst] at hrun
  rcases first with t | report
  · cases t with
    | fault f =>
      cases hplace : w.snapshot.displayPath w.snapshot.base.element with
      | error misuse =>
        simp only [hplace] at hrun
        cases hrun
        obtain ⟨_, next', hrun', rfl⟩ := spares_unfailed he {} hfirst hmask rfl
        rw [hrun']
        simp only [displayPath_strike, hplace]
        exact ⟨_, rfl, rfl⟩
      | ok place =>
        simp only [hplace, Plan.run_note (isQuiet_ofMemory disk)] at hrun
        cases hrun
        rw [List.forall_mem_cons] at hmask
        obtain ⟨rfl, next', hrun'⟩ := spares_fault hd disk he {} hfirst hmask.1
        have hspares := Spares.failed (v := ⟨w.snapshot.base, out, .failed ⟨place, f⟩⟩) rfl
        rw [← hmask.1] at hspares
        rw [hrun']
        refine ⟨_, ?_, hspares⟩
        cases hstruck : (mask w.snapshot.base.steps).isSome with
        | true => rfl
        | false =>
          simp only [Bool.false_eq_true, if_false, displayPath_strike, hplace,
            Plan.run_note (isQuiet_ofMemory disk)]
          rfl
    | _ =>
      cases hrun
      obtain ⟨_, next', hrun', rfl⟩ := spares_unfailed he {} hfirst hmask rfl
      rw [hrun']
      exact ⟨_, rfl, rfl⟩
  · simp only [Plan.run_note (isQuiet_ofMemory disk)] at hrun
    cases hrun
    obtain ⟨first', next', hrun', hspares⟩ := spares_unfailed he {} hfirst hmask rfl
    obtain ⟨report', rfl⟩ := hspares.exists_ok
    rw [hrun']
    simp only [Plan.run_note (isQuiet_ofMemory disk)]
    exact ⟨_, rfl, hspares⟩

/-- The run over the model in which other elements stand in for those that a run
lost ends with the same store and the same report, without their failures. -/
theorem lost_elements_invisible (w : Workshop) (out : Path) (disk : Disk) (m : Memory)
    (standIn : Spot → Json × Json) (hd : directory? w.options = none) :
    ∃ result visits m' result',
      (w.runTour out).run (Sink.ofMemory disk) m = ((result, visits), m') ∧
      (w.run out).run (Sink.ofMemory disk) m = (result, m') ∧
      ((w.strike (lostAt visits standIn)).run out).run (Sink.ofMemory disk) m = (result', m') ∧
      Spares visits result result' ∧
      (w.snapshot.WellFormed → ∃ report, result = .ok report) := by
  rcases hrun : (w.runTour out).run (Sink.ofMemory disk) m with ⟨⟨result, visits⟩, m'⟩
  have hplain : (w.run out).run (Sink.ofMemory disk) m = (result, m') := by
    rw [← w.map_runTour out, Plan.run_map, hrun]
  obtain ⟨calls, hyields⟩ := Plan.yields_of_run hrun
  obtain ⟨result', hrun', hspares⟩ := spares_runTour hd disk hrun fun v hv =>
    isSome_lostAt (nodup_runTour hyields) standIn hv
  refine ⟨result, visits, m', result', rfl, hplain, hrun', hspares, fun hw => ?_⟩
  obtain ⟨report, hreport⟩ := exists_report_memory hw hd out disk m
  rw [hplain] at hreport
  exact ⟨report, hreport⟩

def orphaned : Workshop :=
  ⟨{ sample.snapshot with
      edges := [⟨.text "c", .text "l", .generalization⟩, ⟨.text "l", .text "z", .generalization⟩] },
    {}⟩

theorem lost_elements_invisible_orphaned : ∃ visits report report' m',
    (orphaned.runTour (.ofString "out")).run (Sink.ofMemory Disk.fresh) {} =
      ((.ok report, visits), m') ∧
    ((orphaned.strike (lostAt visits fun _ => (.text "", .text "UMLNote"))).run
      (.ofString "out")).run (Sink.ofMemory Disk.fresh) {} = (.ok report', m') ∧
    report.failures.map (·.place) = ["project/shop/lost"] ∧ report'.failures = [] ∧
    report'.generated.map Path.text = ["out/shop/__init__.dart", "out/shop/parts/__init__.dart",
      "out/shop/parts/Bolt.dart", "out/shop/Cart.dart", "out/shop/Size.dart"] := by
  obtain ⟨result, visits, m', result', hrun, -, hstruck, hspares, -⟩ :=
    lost_elements_invisible orphaned (.ofString "out") Disk.fresh {}
      (fun _ => (.text "", .text "UMLNote")) rfl
  let ended := (orphaned.runTour (.ofString "out")).run (Sink.ofMemory Disk.fresh) {}
  have hreport : (ended.1.1.toOption.map fun r => (r.generated.map Path.text,
      r.failures.map (·.place))) = some (["out/shop/__init__.dart", "out/shop/parts/__init__.dart",
        "out/shop/parts/Bolt.dart", "out/shop/Cart.dart", "out/shop/Size.dart"],
        ["project/shop/lost"]) := by
    decide +kernel
  have hspared : ended.1.2.all (fun v => v.isLost || v.failure?.isNone) = true := by decide +kernel
  have hended : ended = ((result, visits), m') := hrun
  rw [hended] at hreport hspared
  cases result with
  | error t => cases hreport
  | ok report =>
    obtain ⟨htexts, hplaces⟩ := Prod.mk.inj (Option.some.inj hreport)
    obtain ⟨report', rfl, hgenerated, -, -, hfailures⟩ := hspares
    refine ⟨visits, report, report', m', hrun, hstruck, hplaces, ?_, ?_⟩
    · rw [hfailures, List.filterMap_eq_nil_iff]
      intro v hv
      rw [List.mem_filter, Bool.not_eq_true'] at hv
      simpa [hv.2] using List.all_eq_true.1 hspared v hv.1
    · rw [hgenerated]
      exact htexts

end Workshop
end Emit
end UmlPress
