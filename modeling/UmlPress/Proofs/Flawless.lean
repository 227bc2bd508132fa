import Mathlib.Data.Option.NAry
import UmlPress.Proofs.DryRun
import UmlPress.Proofs.Fallible
import UmlPress.Proofs.Granted
import UmlPress.Proofs.Steady

/-!
# Runs without a failure

What an emission asks of a store, if nothing fails, can be told from the model alone.
A run has no failure just if all that it asks for can be composed and is granted. It
then ends with the report and the store that go with these requests.
-/
namespace UmlPress.Emit

namespace Report
variable (report : Report) (requests later : List Request)

theorem success_append (more : Report) :
    (report ++ more).success = (report.success && more.success) := by
  cases h : report.failures <;> simp [success, append_def, h]

theorem success_fail (place : String) (f : Fault) : (report.fail place f).success = false := by
  simp [success, fail]

def ofRequests : Report where
  generated := (Request.writes requests).map (·.1)
  directories := Request.makes requests

theorem ofRequests_append :
    ofRequests (requests ++ later) = ofRequests requests ++ ofRequests later := by
  simp [ofRequests, append_def, Request.writes_append, Request.makes_append]

end Report

def flawless? (ended : Except Trouble Report) (m : Memory) : Option (Report × Memory) :=
  match ended with
  | .ok report => if report.success then some (report, m) else none
  | .error _ => none

def answered (m : Memory) (asked : Option (List Request)) : Option (Report × Memory) :=
  asked.bind fun requests => (m.grant requests).map fun m' => (.ofRequests requests, m')

/-- Requests are answered after one another. -/
theorem answered_append (m : Memory) (asked later : Option (List Request)) :
    answered m (Option.map₂ (· ++ ·) asked later) = (answered m asked).bind fun first =>
      (answered first.2 later).map fun rest => (first.1 ++ rest.1, rest.2) := by
  cases asked with
  | none => rfl
  | some xs =>
    cases later with
    | none =>
      show none = ((m.grant xs).map _).bind _
      cases m.grant xs <;> rfl
    | some ys =>
      simp only [answered, Option.map₂_some_some, Option.bind_some, Memory.grant_append]
      cases m.grant xs with
      | none => rfl
      | some m₁ =>
        simp only [Option.bind_some, Option.map_some, Option.map_map, Report.ofRequests_append]
        rfl

namespace Workshop

def pageRequests (w : Workshop) (base : Path) (e : Element) (compose : Composing Unit) :
    Option (List Request) :=
  match (w.page (.ok none) {} compose).1, w.fileName e with
  | .ok text, .ok name => some [.file (base.child name) text]
  | _, _ => none

mutual

/-- What an emission asks for, if nothing that it composes fails. -/
def requests (w : Workshop) (base : Path) : Element → Option (List Request)
  | .node facts .package owned =>
    match packagePath base facts.name with
    | .error _ => none
    | .ok full =>
      Option.map₂ (· ++ ·) (some [.directory full, .file (w.marker full) ""])
        (w.requestsOf full owned)
  | .node facts (.classifier isInterface attributes operations) owned =>
    let e := Element.node facts (.classifier isInterface attributes operations) owned
    w.pageRequests base e (w.writeClass e)
  | .node facts (.enumeration literals) owned =>
    let e := Element.node facts (.enumeration literals) owned
    w.pageRequests base e (w.writeEnum e)
  | .node _ (.other _) _ => some []
  | .node _ .unsupported _ => none

def requestsOf (w : Workshop) (full : Path) : List Element → Option (List Request)
  | [] => some []
  | e :: r => Option.map₂ (· ++ ·) (w.requests full e) (w.requestsOf full r)

end

variable {w : Workshop} {base full : Path} {supply : Supply} {m : Memory}

theorem flawless_emitFile (hd : directory? w.options = none) (disk : Disk)
    {compose : Composing Unit} (hc : compose.Steady none fun _ => True) (base : Path)
    (supply : Supply) (e : Element)
    (m : Memory) :
    let ended := (w.emitFile base supply e compose).run (Sink.ofMemory disk) m
    flawless? ended.1.1 ended.2 = answered m (w.pageRequests base e compose) := by
  have hpage : (w.page (.ok none) supply compose).1 = (w.page (.ok none) {} compose).1 :=
    (w.page_of_steady hc supply.fits_none (Supply.fits_empty none)).1
  unfold emitFile looking pageRequests
  rw [hd]
  simp only [Plan.run_noteAll (isQuiet_ofMemory disk), hpage]
  cases (w.page (.ok none) {} compose).1 with
  | error t => rfl
  | ok text =>
    cases w.fileName e with
    | error misuse => rfl
    | ok name =>
      simp only [Plan.run_write, Memory.ofMemory_write, answered, Option.bind_some, Memory.grant]
      cases m.write (base.child name) text <;> rfl

/-- What is owned is emitted on top of a report. -/
theorem flawless_emitOwned (disk : Disk) {es : List Element}
    (ih : ∀ e ∈ es, ∀ supply m, (let ended := (w.emit full supply e).run (Sink.ofMemory disk) m
      flawless? ended.1.1 ended.2 = answered m (w.requests full e))) (report : Report) :
    let ended := (w.emitOwned full supply report es).run (Sink.ofMemory disk) m
    flawless? ended.1.1 ended.2 = if report.success then
      (answered m (w.requestsOf full es)).map fun rest => (report ++ rest.1, rest.2) else none := by
  induction es generalizing supply report m with
  | nil =>
    show (if report.success then some (report, m) else none) =
      if report.success then some (report ++ Report.ofRequests [], m) else none
    rw [show report ++ Report.ofRequests [] = report from Report.append_empty report]
  | cons e r ihr =>
    have hfirst := ih e List.mem_cons_self supply m
    have hlater := fun e he => ih e (List.mem_cons_of_mem _ he)
    rw [emitOwned, requestsOf, answered_append, Plan.run_bind_apply]
    dsimp only at hfirst ⊢
    rw [← hfirst]
    generalize (w.emit full supply e).run (Sink.ofMemory disk) m = x
    obtain ⟨⟨result, next⟩, m₁⟩ := x
    have hnone : (if report.success then (none : Option (Report × Memory)) else none) = none := by
      split <;> rfl
    cases result with
    | error t =>
      refine Eq.trans ?_ hnone.symm
      cases t with
      | fault f =>
        dsimp only
        cases w.snapshot.displayPath e with
        | error misuse => rfl
        | ok place =>
          rw [Plan.run_note (isQuiet_ofMemory disk)]
          refine (ihr hlater (report.fail place f)).trans ?_
          rw [Report.success_fail]
          rfl
      | _ => rfl
    | ok more =>
      refine (ihr hlater (report ++ more)).trans ?_
      rw [Report.success_append]
      cases hmore : more.success with
      | false => simp [flawless?, hmore]
      | true =>
        simp only [flawless?, hmore, if_true, Bool.and_true, Option.bind_some, Option.map_map,
          Report.append_assoc]
        rfl

/-- An emission has no failure just if its requests are granted. -/
theorem flawless_emit (hd : directory? w.options = none) (disk : Disk) (base : Path)
    (supply : Supply) (m : Memory) (e : Element) :
    let ended := (w.emit base supply e).run (Sink.ofMemory disk) m
    flawless? ended.1.1 ended.2 = answered m (w.requests base e) := by
  induction e generalizing base supply m with
  | node facts shape owned ih =>
    cases shape with
    | package =>
      rw [emit, requests]
      cases packagePath base facts.name with
      | error t => rfl
      | ok full =>
        have hfirst : answered m (some [.directory full, .file (w.marker full) ""]) =
            (m.grant [.directory full, .file (w.marker full) ""]).map fun m' =>
              ({ generated := [w.marker full], directories := [full] }, m') := rfl
        rw [answered_append, hfirst, Memory.grant]
        dsimp only
        rw [Plan.run_makeDirectory, Memory.ofMemory_makeDirectory]
        cases m.makeDirectory full with
        | error f => rfl
        | ok m₁ =>
          dsimp only [Sink.stepped, mapError_ok]
          rw [Memory.grant, Plan.run_write, Memory.ofMemory_write]
          cases m₁.write (w.marker full) "" with
          | error f => rfl
          | ok m₂ =>
            exact flawless_emitOwned disk (fun e he supply m => ih e he full supply m) _
    | classifier isInterface attributes operations =>
      rw [emit, requests]
      exact flawless_emitFile hd disk (w.steady_writeClass (Composing.covers_all none) rfl
        (.inr fun _ => trivial)) base supply _ m
    | enumeration literals =>
      rw [emit, requests]
      exact flawless_emitFile hd disk (w.steady_writeEnum (Composing.covers_all none) rfl
        (.inr fun _ => trivial)) base supply _ m
    | other type =>
      rw [emit, Plan.run_note (isQuiet_ofMemory disk)]
      rfl
    | unsupported =>
      rw [emit]
      rfl

/-- A run has no failure just if the requests of its base are granted. -/
theorem flawless_run (hd : directory? w.options = none) (disk : Disk) (out : Path) (m : Memory) :
    let ended := (w.run out).run (Sink.ofMemory disk) m
    flawless? ended.1 ended.2 = answered m (w.requests out w.snapshot.base.element) := by
  have hemit := flawless_emit hd disk out {} m w.snapshot.base.element
  rw [run, Plan.run_bind_apply]
  dsimp only at hemit ⊢
  rw [← hemit]
  generalize (w.emit out {} w.snapshot.base.element).run (Sink.ofMemory disk) m = x
  obtain ⟨⟨result, next⟩, m'⟩ := x
  cases result with
  | error t =>
    cases t with
    | fault f =>
      dsimp only
      cases w.snapshot.displayPath w.snapshot.base.element <;> rfl
    | _ => rfl
  | ok report => rfl

theorem flawless?_eq_some {ended : Except Trouble Report} {m m' : Memory} {report : Report} :
    flawless? ended m = some (report, m') ↔
      ended = .ok report ∧ report.failures = [] ∧ m = m' := by
  cases ended with
  | error t => simp [flawless?]
  | ok r =>
    rw [flawless?]
    split
    · rename_i hs
      rw [Report.success, List.isEmpty_iff] at hs
      constructor
      · rintro ⟨⟩
        exact ⟨rfl, hs, rfl⟩
      · rintro ⟨⟨⟩, -, rfl⟩
        rfl
    · rename_i hs
      rw [Report.success, List.isEmpty_iff] at hs
      constructor
      · rintro ⟨⟩
      · rintro ⟨⟨⟩, hfailures, -⟩
        exact absurd hfailures hs

theorem answered_eq_some {m m' : Memory} {asked : Option (List Request)} {report : Report} :
    answered m asked = some (report, m') ↔
      ∃ requests, asked = some requests ∧ m.grant requests = some m' ∧
        report = .ofRequests requests := by
  rw [answered, Option.bind_eq_some_iff]
  refine exists_congr fun requests => and_congr_right fun _ => ?_
  rw [Option.map_eq_some_iff]
  constructor
  · rintro ⟨m', hgrant, ⟨⟩⟩
    exact ⟨hgrant, rfl⟩
  · rintro ⟨hgrant, rfl⟩
    exact ⟨m', hgrant, rfl⟩

/-- A run ends without a failure if and only if it asks for something and is granted all of
it. -/
theorem run_flawless_iff (hd : directory? w.options = none) (disk : Disk) (out : Path)
    (m m' : Memory) (report : Report) :
    (w.run out).run (Sink.ofMemory disk) m = (.ok report, m') ∧ report.failures = [] ↔
      ∃ requests, w.requests out w.snapshot.base.element = some requests ∧
        m.grant requests = some m' ∧ report = .ofRequests requests := by
  rw [← answered_eq_some, ← flawless_run hd disk, flawless?_eq_some, Prod.ext_iff]
  tauto

end Workshop
end UmlPress.Emit
