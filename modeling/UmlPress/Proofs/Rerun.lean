import UmlPress.Proofs.DryRun
import UmlPress.Proofs.Requests

/-!
# Running again

Runs follow one another on one store in memory, each with a model, options and an
output directory of its own. What stands at a path stays there through all of
them, a directory or a file, however a run ends. The first thing that a run over a
package asks for is the directory of the package, so after one run the same
directory is refused to every later one. That is all that comes of it, or a run
does not come so far because there cannot be a text to indent by.
-/
namespace UmlPress

namespace Memory
open Emit

variable {m : Memory} {p q : Path}

theorem Taken.accept (h : m.Taken p) (c : Call) : (m.accept c).Taken p := by
  rcases c with ⟨q, _ | ⟨⟨⟩⟩⟩ | ⟨q, content, _ | ⟨⟨⟩⟩⟩
  · exact h
  · exact h.imp (List.mem_cons_of_mem q) id
  · exact h
  · refine h.imp id fun hread => ?_
    show (Keyed.get? p (Keyed.put q content m.files)).isSome
    rw [Keyed.get?_put]
    split
    · rfl
    · exact hread

/-- What stands at a path stays there, whatever is carried out. -/
theorem Taken.run {α : Type} (h : m.Taken p) (disk : Disk) (x : Plan α) :
    (x.run (Sink.ofMemory disk) m).2.Taken p := by
  obtain ⟨calls, -, -, -, hstate⟩ := x.run_recorded (Sink.ofMemory disk) [] m
  rw [hstate _ (changesBy_accept disk)]
  clear hstate
  induction calls generalizing m with
  | nil => exact h
  | cons c rest ih => exact ih (h.accept c)

/-- A path where a directory was asked for is taken from then on. -/
theorem taken_makeDirectory (disk : Disk) (m : Memory) (p : Path) :
    ((Sink.ofMemory disk).makeDirectory p m).2.Taken p := by
  rw [ofMemory_makeDirectory]
  by_cases h : m.Taken p
  · rw [makeDirectory_of_taken h]
    exact h
  · rw [makeDirectory_of_not_taken h]
    exact .inl List.mem_cons_self

end Memory

namespace Emit
open Memory

/-- The first thing that a package asks for is its directory, and without that there
is nothing to go on with. -/
theorem Workshop.exists_emit_package (w : Workshop) (base : Path) (supply : Supply) {e : Element}
    {name : String} (hpackage : e.isPackage = true) (hname : e.name = .text name) :
    ∃ next : Answer → Emission, w.emit base supply e = .makeDirectory (base.child name) next ∧
      ∀ t, next (.error t) = .done (.error t, supply) := by
  obtain ⟨facts, shape, owned⟩ := e
  cases shape with
  | package =>
    rw [emit, show facts.name = .text name from hname]
    exact ⟨_, rfl, fun _ => rfl⟩
  | _ => cases hpackage

/-- A run over a model, with the file system on which its templates are looked for. -/
structure Job where
  snapshot : Snapshot
  options : Options
  out : Path
  disk : Disk

namespace Job

def run (j : Job) (m : Memory) : Except Trouble Report × Memory :=
  (generate j.snapshot j.options j.out).run (Sink.ofMemory j.disk) m

def runAll : List Job → Memory → List (Except Trouble Report) × Memory
  | [], m => ([], m)
  | j :: rest, m =>
    let (result, next) := j.run m
    let (results, last) := runAll rest next
    (result :: results, last)

/-- The base is a package of some name, to be made in some directory. -/
structure Makes (j : Job) (out : Path) (name : String) : Prop where
  out : j.out = out
  package : j.snapshot.base.element.isPackage = true
  name : j.snapshot.base.element.name = .text name

variable {j : Job} {jobs : List Job} {m : Memory} {out p : Path} {name : String}

/-- A job emits its model if there can be a text to indent by, and does nothing otherwise. -/
theorem run_eq (j : Job) (m : Memory) : j.run m = match j.options.checkIndent with
    | .error misuse => (.error (.misuse misuse), m)
    | .ok _ => (Workshop.run ⟨j.snapshot, j.options⟩ j.out).run (Sink.ofMemory j.disk) m := by
  rw [run, generate_eq]
  cases j.options.checkIndent with
  | error misuse => rfl
  | ok _ => rfl

theorem taken_run (h : m.Taken p) (j : Job) : (j.run m).2.Taken p := h.run j.disk _

theorem taken_runAll (h : m.Taken p) (jobs : List Job) : (runAll jobs m).2.Taken p := by
  induction jobs generalizing m with
  | nil => exact h
  | cons j rest ih => exact ih (taken_run h j)

theorem runAll_append (jobs later : List Job) (m : Memory) :
    (runAll (jobs ++ later) m).2 = (runAll later (runAll jobs m).2).2 := by
  induction jobs generalizing m with
  | nil => rfl
  | cons j rest ih => exact ih _

/-- After a job over a package that got to its model the place of the package's directory
is taken. -/
theorem Makes.taken (h : j.Makes out name) (hindent : j.options.checkIndent = .ok ())
    (m : Memory) : (j.run m).2.Taken (out.child name) := by
  let w : Workshop := ⟨j.snapshot, j.options⟩
  obtain ⟨next, hemit, -⟩ := w.exists_emit_package j.out {} h.package h.name
  rw [run_eq, hindent]
  dsimp only
  rw [Workshop.run, hemit, Plan.run_bind_apply, Plan.run_makeDirectory, h.out]
  exact ((taken_makeDirectory j.disk m _).run j.disk _).run j.disk _

/-- Where the place of the package's directory is taken, a run over the package
reports that, and changes nothing. -/
theorem Makes.run_of_taken (h : j.Makes out name) (ht : m.Taken (out.child name)) {place : String}
    (hplace : j.snapshot.displayPath j.snapshot.base.element = .ok place) :
    (Workshop.run ⟨j.snapshot, j.options⟩ j.out).run (Sink.ofMemory j.disk) m =
      (.ok { failures := [⟨place, .directory (out.child name).text "path already exists"⟩] },
        m) := by
  let w : Workshop := ⟨j.snapshot, j.options⟩
  obtain ⟨next, hemit, hnext⟩ := w.exists_emit_package j.out {} h.package h.name
  let refusal : Fault := .directory (out.child name).text "path already exists"
  have hanswer : (Sink.ofMemory j.disk).makeDirectory (out.child name) m =
      (.error (.fault refusal), m) := by
    rw [ofMemory_makeDirectory, makeDirectory_of_taken ht]
    rfl
  have hemitted : (w.emit j.out {} j.snapshot.base.element).run (Sink.ofMemory j.disk) m =
      ((.error (.fault refusal), {}), m) := by
    rw [hemit, h.out, Plan.run_makeDirectory, hanswer, hnext]
    rfl
  rw [Workshop.run, Plan.run_bind_apply, hemitted]
  dsimp only
  rw [hplace]
  rfl

/-- Running again changes nothing. Once a job over a package of some name has got to its
model, a later job over a package of the same name in the same directory, whatever its
model and options are and whatever was run before and in between, leaves the store as it
is. It is refused the directory and reports that failure alone, at the place of its base,
if there can be a text to indent by; if not, it does not get so far. -/
theorem run_again_changes_nothing (earlier between : List Job) {first later : Job} {out : Path}
    {name : String} (m : Memory) (hfirst : first.Makes out name)
    (hbegun : first.options.checkIndent = .ok ()) (hlater : later.Makes out name)
    (hh : later.snapshot.Hashable) (ho : later.snapshot.OwnersDiffer)
    (hnamed : ∀ x ∈ later.snapshot.index, x.spot.element.name.isText = true) :
    ∃ results m' place result, runAll (earlier ++ first :: between) m = (results, m') ∧
      later.snapshot.displayPath later.snapshot.base.element = .ok place ∧
      later.run m' = (result, m') ∧
      (later.options.checkIndent = .ok () → result = .ok
        { generated := []
          directories := []
          failures := [⟨place, .directory (out.child name).text "path already exists"⟩] }) ∧
      ∀ misuse, later.options.checkIndent = .error misuse → result = .error (.misuse misuse) := by
  have htaken : (runAll (earlier ++ first :: between) m).2.Taken (out.child name) := by
    rw [runAll_append]
    exact taken_runAll (hfirst.taken hbegun _) between
  have htext : later.snapshot.base.element.name.isText = true := by
    rw [hlater.name]
    rfl
  obtain ⟨place, hplace⟩ := Snapshot.exists_displayPath_of_named hh ho hnamed htext
  have hrun := run_eq later (runAll (earlier ++ first :: between) m).2
  rw [hlater.run_of_taken htaken hplace] at hrun
  cases hindent : later.options.checkIndent with
  | error misuse =>
    rw [hindent] at hrun
    exact ⟨_, _, place, _, rfl, hplace, hrun, nofun, fun _ h => by rw [Except.error.inj h]⟩
  | ok _ =>
    rw [hindent] at hrun
    exact ⟨_, _, place, _, rfl, hplace, hrun, fun _ => rfl, nofun⟩

def stall : Snapshot :=
  let shop : Element := .node ⟨.text "t", .text "shop", .text ""⟩ .package [sampleClass "c" "cart"]
  { root := .node ⟨.text "f", .text "fair", .text ""⟩ .package [shop]
    edges := []
    base := ⟨[0], shop⟩ }

def onSample (out : String) : Job := ⟨sample.snapshot, sample.options, .ofString out, .fresh⟩

/-- The marker of the sample is refused, and its directory is taken all the same. -/
theorem run_again_changes_nothing_stall : ∃ results m',
    runAll [onSample "out", onSample "else"] { refused := ["__init__.dart"] } = (results, m') ∧
      m'.directories.map Path.text = ["out/shop", "else/shop"] ∧
      run ⟨stall, { initFileName := "index.dart" }, .ofString "out", .fresh⟩ m' =
        (.ok { generated := [], directories := [], failures :=
          [⟨"fair/shop", .directory "out/shop" "path already exists"⟩] }, m') := by
  have hfirst : (onSample "out").Makes (.ofString "out") "shop" := ⟨rfl, rfl, rfl⟩
  have hlater : Makes ⟨stall, { initFileName := "index.dart" }, .ofString "out", .fresh⟩
      (.ofString "out") "shop" := ⟨rfl, rfl, rfl⟩
  have hh : stall.Hashable := by
    unfold Snapshot.Hashable
    decide +kernel
  have ho : stall.OwnersDiffer := by
    unfold Snapshot.OwnersDiffer
    decide +kernel
  obtain ⟨results, m', place, result, hruns, hplace, hrun, hrefused, -⟩ :=
    run_again_changes_nothing [] [onSample "else"] { refused := ["__init__.dart"] } hfirst
      (by decide) hlater hh ho (by decide +kernel)
  have hmade : (runAll [onSample "out", onSample "else"]
      { refused := ["__init__.dart"] }).2.directories.map Path.text = ["out/shop", "else/shop"] := by
    decide +kernel
  have hshown : stall.displayPath stall.base.element = .ok "fair/shop" := by decide +kernel
  have htext : ((Path.ofString "out").child "shop").text = "out/shop" := by decide +kernel
  obtain rfl : "fair/shop" = place := Except.ok.inj (hshown.symm.trans hplace)
  rw [hrefused (by decide), htext] at hrun
  rw [show runAll [onSample "out", onSample "else"] { refused := ["__init__.dart"] } =
    (results, m') from hruns] at hmade
  exact ⟨results, m', hruns, hmade, hrun⟩

/-- The sample again, to be indented by more spaces than there can be: there is no report. -/
theorem wide_indent_reports_nothing :
    ((onSample "out").run {}).1.toOption.map (·.directories.map Path.text) =
      some ["out/shop", "out/shop/parts"] ∧
    ({ onSample "out" with options := { indentSpaces := Options.longestText + 1 } }.run
      ((onSample "out").run {}).2).1 = .error (.misuse .tooLong) := by
  constructor
  · decide +kernel
  · rw [run_eq]
    rfl

end Job
end Emit
end UmlPress
