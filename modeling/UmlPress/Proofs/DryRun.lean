import UmlPress.Proofs.Mirror
import UmlPress.Proofs.Returns
import UmlPress.Proofs.Serves

/-!
# A dry run

A run on a store in memory foretells a run on a file system, unless it writes a text that no
bytes can be made of: there the run on the file system ends. Until then both go through the
model step by step and give the same answers, in other words at most, and after each step the
file system mirrors the store.
-/
namespace UmlPress.Emit

def Fault.bare : Fault → Fault
  | .directory shown _ => .directory shown ""
  | .file shown _ => .file shown ""
  | f => f

def Failure.bare (f : Failure) : Failure := { f with fault := f.fault.bare }

def Report.bare (r : Report) : Report := { r with failures := r.failures.map Failure.bare }

def Trouble.bare : Trouble → Trouble
  | .fault f => .fault f.bare
  | t => t

def bare (r : Except Trouble Report) : Except Trouble Report :=
  (r.mapError Trouble.bare).map Report.bare

theorem Report.bare_append (r s : Report) : (r ++ s).bare = r.bare ++ s.bare := by
  simp [Report.bare, Report.append_def]

theorem Report.bare_fail (r : Report) (place : String) (f : Fault) :
    (r.fail place f).bare = r.bare.fail place f.bare := by
  simp [Report.bare, Report.fail, Failure.bare]

theorem bare_ok {r : Report} {y : Except Trouble Report} (h : bare (.ok r) = bare y) :
    ∃ r', y = .ok r' ∧ r.bare = r'.bare := by
  cases y with
  | error t => cases h
  | ok r' => exact ⟨r', rfl, Except.ok.inj h⟩

/-- The same trouble, apart from reasons, is the same if it is no fault. -/
theorem bare_error {t : Trouble} {y : Except Trouble Report} (h : bare (.error t) = bare y) :
    y = .error t ∧ (∀ f, t ≠ .fault f) ∨
      ∃ f f', t = .fault f ∧ y = .error (.fault f') ∧ f.bare = f'.bare := by
  cases y with
  | ok r => cases h
  | error u =>
    have hbare : t.bare = u.bare := Except.error.inj h
    cases t <;> cases u <;> simp_all [Trouble.bare]

mutual

/-- The names, from the directory of an emission on, of what it may make or
write. -/
def Workshop.products (w : Workshop) : Element → List (List String)
  | .node facts .package owned =>
    match facts.name with
    | .text s => [s] :: [s, w.options.initFileName] :: (w.productsOf owned).map (s :: ·)
    | _ => []
  | .node _ (.other _) _ => []
  | .node _ .unsupported _ => []
  | .node facts shape owned =>
    match w.fileName (.node facts shape owned) with
    | .ok s => [[s]]
    | .error _ => []

def Workshop.productsOf (w : Workshop) : List Element → List (List String)
  | [] => []
  | e :: r => w.products e ++ w.productsOf r

end

def Sink.IsQuiet {σ : Type} (s : Sink (StateM σ)) : Prop := ∀ n st, s.note n st = ((), st)

theorem isQuiet_ofMemory (disk : Disk) : (Sink.ofMemory disk).IsQuiet := fun _ _ => rfl

theorem isQuiet_strict (disk : Disk) : (Sink.strict disk).IsQuiet := fun _ _ => rfl

theorem isQuiet_ofDisk : Sink.ofDisk.IsQuiet := fun _ _ => rfl

section
variable {σ α : Type} {sink : Sink (StateM σ)}

theorem Plan.run_note (h : sink.IsQuiet) (n : Note) (next : Plan α) (s : σ) :
    (Plan.note n next).run sink s = next.run sink s := by
  show next.run sink (sink.note n s).2 = _
  rw [h n s]

theorem Plan.run_noteAll (h : sink.IsQuiet) (ns : List Note) (next : Plan α) (s : σ) :
    (Plan.noteAll ns next).run sink s = next.run sink s := by
  induction ns with
  | nil => rfl
  | cons n r ih => rw [noteAll, run_note h, ih]

end

structure Agree (out : Path) (top : List String) (before d : Disk)
    (x : (Except Trouble Report × Supply) × Memory)
    (y : (Except Trouble Report × Supply) × Disk) : Prop where
  result : bare x.1.1 = bare y.1.1
  supply : x.1.2 = y.1.2
  mirrors : Mirrors out top before x.2 y.2
  grown : d.Extends y.2

theorem Agree.after {out : Path} {top : List String} {before d d' : Disk}
    {x : (Except Trouble Report × Supply) × Memory} {y : (Except Trouble Report × Supply) × Disk}
    (hgrown : d.Extends d') (h : Agree out top before d' x y) : Agree out top before d x y :=
  ⟨h.result, h.supply, h.mirrors, hgrown.trans h.grown⟩

namespace Workshop
variable {w : Workshop} {out : Path} {top place : List String} {before d : Disk} {m : Memory}
  {supply : Supply}

theorem agree_emitFile (hd : directory? w.options = none) (disk : Disk)
    (hr : before.resolve out = .ok top) (h : Mirrors out top before m d) (ho : d.IsOpen top place)
    {e : Element} (compose : Composing Unit)
    (ha : ∀ name, w.fileName e = .ok name → before.Admits out (place ++ [name])) :
    Agree out top before d
      ((w.emitFile (out.below place) supply e compose).run (Sink.strict disk) m)
      ((w.emitFile (out.below place) supply e compose).run Sink.ofDisk d) := by
  unfold emitFile looking
  rw [hd]
  simp only [Plan.run_noteAll (isQuiet_strict disk), Plan.run_noteAll isQuiet_ofDisk]
  cases (w.page (.ok none) supply compose).1 with
  | error t => exact ⟨rfl, rfl, h, .refl d⟩
  | ok text =>
    cases hn : w.fileName e with
    | error t => exact ⟨rfl, rfl, h, .refl d⟩
    | ok name =>
      have hname := ha name hn
      simp only [Path.below_child (hname.plain name (by simp)), Plan.run_write]
      obtain ⟨answer, answer', m', d', hmem, hdisk, hmirrors, hgrown, hanswer⟩ :=
        h.write disk text hr ho hname
      rw [hmem, hdisk]
      rcases hanswer with rfl | ⟨shown, reason, reason', rfl, rfl⟩
      · exact ⟨rfl, rfl, hmirrors, hgrown⟩
      · exact ⟨rfl, rfl, hmirrors, hgrown⟩

/-- What is owned is emitted alike on top of reports that are alike. -/
theorem agree_emitOwned (disk : Disk) {es : List Element}
    (ih : ∀ e ∈ es, ∀ supply m d, Mirrors out top before m d → d.IsOpen top place →
      (∀ names ∈ w.products e, before.Admits out (place ++ names)) →
      Agree out top before d ((w.emit (out.below place) supply e).run (Sink.strict disk) m)
        ((w.emit (out.below place) supply e).run Sink.ofDisk d))
    (h : Mirrors out top before m d) (ho : d.IsOpen top place)
    (ha : ∀ names ∈ w.productsOf es, before.Admits out (place ++ names)) {report report' : Report}
    (hreport : report.bare = report'.bare) :
    Agree out top before d
      ((w.emitOwned (out.below place) supply report es).run (Sink.strict disk) m)
      ((w.emitOwned (out.below place) supply report' es).run Sink.ofDisk d) := by
  induction es generalizing supply report report' m d with
  | nil => exact ⟨congrArg Except.ok hreport, rfl, h, .refl d⟩
  | cons e r ihr =>
    rw [productsOf, List.forall_mem_append] at ha
    obtain ⟨hresult, hsupply, hmirrors, hgrown⟩ := ih e List.mem_cons_self supply m d h ho ha.1
    rw [emitOwned, emitOwned, Plan.run_bind_apply, Plan.run_bind_apply]
    generalize (w.emit (out.below place) supply e).run (Sink.strict disk) m = x at *
    generalize (w.emit (out.below place) supply e).run Sink.ofDisk d = y at *
    obtain ⟨⟨result, next⟩, m'⟩ := x
    obtain ⟨⟨result', next'⟩, d'⟩ := y
    obtain rfl : next = next' := hsupply
    have hrest {r₁ r₂ : Report} (hr : r₁.bare = r₂.bare) : Agree out top before d
        ((w.emitOwned (out.below place) next r₁ r).run (Sink.strict disk) m')
        ((w.emitOwned (out.below place) next r₂ r).run Sink.ofDisk d') :=
      .after hgrown (ihr (fun e he => ih e (List.mem_cons_of_mem _ he)) hmirrors
        (ho.extends hgrown) ha.2 hr)
    rcases result with t | more
    · rcases bare_error hresult with ⟨rfl, ht⟩ | ⟨f, f', rfl, rfl, hf⟩
      · cases t with
        | fault f => exact absurd rfl (ht f)
        | _ => exact ⟨rfl, rfl, hmirrors, hgrown⟩
      · cases w.snapshot.displayPath e with
        | error misuse => exact ⟨rfl, rfl, hmirrors, hgrown⟩
        | ok shown =>
          have hfail : (report.fail shown f).bare = (report'.fail shown f').bare := by
            rw [Report.bare_fail, Report.bare_fail, hreport, hf]
          simp only [Plan.run_note (isQuiet_strict disk), Plan.run_note isQuiet_ofDisk]
          exact hrest hfail
    · obtain ⟨more', rfl, hmore⟩ := bare_ok hresult
      exact hrest (by rw [Report.bare_append, Report.bare_append, hreport, hmore])

theorem agree_emit (hd : directory? w.options = none) (disk : Disk)
    (hr : before.resolve out = .ok top) {e : Element} (h : Mirrors out top before m d)
    (ho : d.IsOpen top place) (ha : ∀ names ∈ w.products e, before.Admits out (place ++ names)) :
    Agree out top before d
      ((w.emit (out.below place) supply e).run (Sink.strict disk) m)
      ((w.emit (out.below place) supply e).run Sink.ofDisk d) := by
  induction e generalizing place supply m d with
  | node facts shape owned ih =>
    cases shape with
    | package =>
      rw [emit]
      cases hname : facts.name with
      | text s =>
        simp only [products, hname, List.forall_mem_cons, List.forall_mem_map] at ha
        obtain ⟨hs, hmarker, howned⟩ := ha
        have hplain : Path.IsPlain s := hs.plain s (by simp)
        have hinit : Path.IsPlain w.options.initFileName := hmarker.plain _ (by simp)
        simp only [packagePath, Path.below_child hplain, Plan.run_makeDirectory]
        rcases h.makeDirectory disk hr ho hs with ⟨t, hmem, hdisk⟩ |
          ⟨m', d', hmem, hdisk, hmirrors, hgrown, hopen⟩
        · rw [hmem, hdisk]
          exact ⟨rfl, rfl, h, .refl d⟩
        · rw [hmem, hdisk]
          refine .after hgrown ?_
          have hfull (names : List String) : place ++ s :: names = place ++ [s] ++ names := by simp
          have hmarker' : before.Admits out (place ++ [s] ++ [w.options.initFileName]) := by
            rw [← hfull]
            exact hmarker
          simp only [marker, Path.below_child hinit, Plan.run_write]
          obtain ⟨answer, answer', m'', d'', hmem, hdisk, hmirrors, hgrown, hanswer⟩ :=
            hmirrors.write disk "" hr hopen hmarker'
          rw [hmem, hdisk]
          refine .after hgrown ?_
          rcases hanswer with rfl | ⟨shown, reason, reason', rfl, rfl⟩
          case inr => exact ⟨rfl, rfl, hmirrors, .refl d''⟩
          rcases answer with t | ⟨⟨⟩⟩
          · exact ⟨rfl, rfl, hmirrors, .refl d''⟩
          · refine agree_emitOwned disk (fun e he _ _ _ h ho ha => ih e he h ho ha) hmirrors
              (hopen.extends hgrown) (fun names hn => ?_) rfl
            rw [← hfull]
            exact howned names hn
      | _ => exact ⟨rfl, rfl, h, .refl d⟩
    | classifier isInterface attributes operations =>
      rw [emit]
      refine agree_emitFile hd disk hr h ho _ fun name hn => ha _ ?_
      simp [products, hn]
    | enumeration literals =>
      rw [emit]
      refine agree_emitFile hd disk hr h ho _ fun name hn => ha _ ?_
      simp [products, hn]
    | other type =>
      rw [emit, Plan.run_note (isQuiet_strict disk), Plan.run_note isQuiet_ofDisk]
      exact ⟨rfl, rfl, h, .refl d⟩
    | unsupported =>
      rw [emit]
      exact ⟨rfl, rfl, h, .refl d⟩

/-- A whole run on an empty store and one on a file system with an empty output
directory end alike, and the file system mirrors the store. -/
theorem mirrors_run (hd : directory? w.options = none) (disk : Disk)
    (hr : before.resolve out = .ok top) (htop : before.get? top = some .directory)
    (hempty : ∀ below, below ≠ [] → before.get? (top ++ below) = none)
    (ha : ∀ names ∈ w.products w.snapshot.base.element, before.Admits out names) :
    bare ((w.run out).run (Sink.strict disk) {}).1 = bare ((w.run out).run Sink.ofDisk before).1 ∧
      Mirrors out top before ((w.run out).run (Sink.strict disk) {}).2
        ((w.run out).run Sink.ofDisk before).2 := by
  have hopen : before.IsOpen top [] := by
    rw [Disk.IsOpen, List.append_nil]
    exact ⟨rfl, htop⟩
  have hemit : Agree out top before before
      ((w.emit (out.below []) {} w.snapshot.base.element).run (Sink.strict disk) {})
      ((w.emit (out.below []) {} w.snapshot.base.element).run Sink.ofDisk before) :=
    agree_emit hd disk hr (.start hempty) hopen ha
  rw [Path.below_nil] at hemit
  rw [run, Plan.run_bind_apply, Plan.run_bind_apply]
  generalize (w.emit out {} w.snapshot.base.element).run (Sink.strict disk) {} = x at *
  generalize (w.emit out {} w.snapshot.base.element).run Sink.ofDisk before = y at *
  obtain ⟨⟨result, supply⟩, m⟩ := x
  obtain ⟨⟨result', supply'⟩, d⟩ := y
  obtain ⟨hresult, -, hmirrors, -⟩ := hemit
  rcases result with t | report
  · rcases bare_error hresult with ⟨rfl, ht⟩ | ⟨f, f', rfl, rfl, hf⟩
    · cases t with
      | fault f => exact absurd rfl (ht f)
      | _ => exact ⟨rfl, hmirrors⟩
    · cases w.snapshot.displayPath w.snapshot.base.element with
      | error misuse => exact ⟨rfl, hmirrors⟩
      | ok shown =>
        refine ⟨congrArg Except.ok ?_, hmirrors⟩
        rw [Report.bare_fail, Report.bare_fail, hf]
  · obtain ⟨report', rfl, hreport⟩ := bare_ok hresult
    exact ⟨hresult, hmirrors⟩

/-- A store in memory beside a file system leaves the file system as it is. -/
theorem run_memory {α : Type} (x : Plan α) (m : Memory) (d : Disk) :
    (x.run (Sink.memory Sink.ofDisk.look Sink.ofDisk.note)).run m d =
      (x.run (Sink.ofMemory d) m, d) := by
  induction x generalizing m with
  | done a => rfl
  | makeDirectory p next ih => exact ih _ _
  | write p content next ih => exact ih _ _
  | look p next ih => exact ih _ _
  | note n next ih => exact ih _

/-! Runs that give up. -/

def EndsIn (t : Trouble) (a : Except Trouble Report × Supply) : Prop := a.1 = .error t

theorem givesUp_emitFile (w : Workshop) (base : Path) (supply : Supply) (e : Element)
    (compose : Composing Unit) : (w.emitFile base supply e compose).GivesUp EndsIn := by
  unfold emitFile looking
  split
  -- A page is written alike, whether templates are looked for or not.
  case' h_2 => intro found
  all_goals
    rw [Plan.givesUp_noteAll]
    split
    · trivial
    · trivial
    · exact ⟨fun t _ => ⟨_, rfl, rfl⟩, fun _ => trivial⟩

theorem givesUp_emitOwned {full : Path} {es : List Element}
    (ih : ∀ e ∈ es, ∀ supply, (w.emit full supply e).GivesUp EndsIn) (report : Report) :
    (w.emitOwned full supply report es).GivesUp EndsIn := by
  induction es generalizing supply report with
  | nil => trivial
  | cons e r ihr =>
    have hrest (supply : Supply) (report : Report) :
        (w.emitOwned full supply report r).GivesUp EndsIn :=
      ihr (fun e he => ih e (List.mem_cons_of_mem _ he)) report
    rw [emitOwned]
    refine (ih e List.mem_cons_self supply).bind ?_ ?_
    · rintro t ⟨result, supply'⟩ ht rfl
      cases t with
      | fault f => exact absurd rfl (ht f)
      | _ => exact ⟨_, rfl, rfl⟩
    · rintro ⟨t | more, supply'⟩
      · cases t with
        | fault f =>
          dsimp only
          split
          · trivial
          · exact hrest _ _
        | _ => trivial
      · exact hrest _ _

theorem givesUp_emit (base : Path) (e : Element) : (w.emit base supply e).GivesUp EndsIn := by
  induction e generalizing base supply with
  | node facts shape owned ih =>
    cases shape with
    | package =>
      rw [emit]
      split
      · trivial
      · rintro (t | ⟨⟨⟩⟩)
        · trivial
        · refine ⟨fun t _ => ⟨_, rfl, rfl⟩, ?_⟩
          rintro (t | ⟨⟨⟩⟩)
          · trivial
          · exact givesUp_emitOwned (fun e he supply => ih e he _) _
    | classifier isInterface attributes operations =>
      rw [emit]
      exact w.givesUp_emitFile _ _ _ _
    | enumeration literals =>
      rw [emit]
      exact w.givesUp_emitFile _ _ _ _
    | other type =>
      rw [emit]
      trivial
    | unsupported =>
      rw [emit]
      trivial

theorem givesUp_run (w : Workshop) (out : Path) :
    (w.run out).GivesUp fun t r => r = .error t := by
  unfold run
  refine (givesUp_emit out _).bind ?_ ?_
  · rintro t ⟨result, supply⟩ ht rfl
    cases t with
    | fault f => exact absurd rfl (ht f)
    | _ => exact ⟨_, rfl, rfl⟩
  · rintro ⟨t | report, supply⟩
    · cases t with
      | fault f =>
        dsimp only
        split <;> trivial
      | _ => trivial
    · trivial

/-- What a run of the store in memory and the store after it foretell of a run on a file
system with an output directory that was empty before: the same report, up to the words in
which a store refuses something, or the same trouble; and the directories and files of the
store below the output directory, with nothing changed elsewhere. -/
structure Foretells (out : Path) (top : List String) (before : Disk)
    (dry : Except Trouble Report) (m : Memory) (real : Except Trouble Report) (after : Disk) :
    Prop where
  result : bare dry = bare real
  report : ∀ r, dry = .ok r → ∃ r', real = .ok r' ∧ r.generated = r'.generated ∧
    r.directories = r'.directories ∧
    r.failures.map (fun f => (f.place, f.fault.bare)) =
      r'.failures.map fun f => (f.place, f.fault.bare)
  directory : ∀ below, below ≠ [] →
    (after.get? (top ++ below) = some .directory ↔ out.below below ∈ m.directories)
  file : ∀ below, below ≠ [] → ∀ c, after.get? (top ++ below) = some (.file c) ↔
    ∃ s, c = .text s ∧ m.read? (out.below below) = some s
  inside : ∀ p, p ∈ m.directories ∨ (m.read? p).isSome → ∃ below, below ≠ [] ∧ p = out.below below
  outside : ∀ names, (∀ below, below ≠ [] → names ≠ top ++ below) →
    after.get? names = before.get? names

theorem foretells_of_mirrors {dry real : Except Trouble Report} {after : Disk}
    (hbare : bare dry = bare real) (h : Mirrors out top before m after) :
    Foretells out top before dry m real after where
  result := hbare
  report r hr := by
    subst hr
    obtain ⟨r', rfl, hsame⟩ := bare_ok hbare
    have hfailures : r.failures.map Failure.bare = r'.failures.map Failure.bare :=
      congrArg Report.failures hsame
    have hpairs := congrArg (List.map fun f => (f.place, f.fault)) hfailures
    rw [List.map_map, List.map_map] at hpairs
    have hgenerated : r.bare.generated = r'.bare.generated := by rw [hsame]
    have hdirectories : r.bare.directories = r'.bare.directories := by rw [hsame]
    exact ⟨r', rfl, hgenerated, hdirectories, hpairs⟩
  directory := h.directory
  file := h.file
  inside := h.inside
  outside := h.outside

/-- The run on a file system follows the one on a strict store, which is that of the dry run
until there is a half to be written. -/
theorem foretells_run (hd : directory? w.options = none) (disk : Disk)
    (hr : before.resolve out = .ok top) (htop : before.get? top = some .directory)
    (hempty : ∀ below, below ≠ [] → before.get? (top ++ below) = none)
    (ha : ∀ names ∈ w.products w.snapshot.base.element, before.Admits out names)
    {calls : List Call}
    (hcalls : (((w.run out).run (Sink.ofMemory disk).recorded).run [] {}).1.2 = calls) :
    (Call.Spelled calls → Foretells out top before ((w.run out).run (Sink.ofMemory disk) {}).1
      ((w.run out).run (Sink.ofMemory disk) {}).2 ((w.run out).run Sink.ofDisk before).1
      ((w.run out).run Sink.ofDisk before).2) ∧
    (¬ Call.Spelled calls → ∃ t, Call.Halts calls t ∧
      ((w.run out).run Sink.ofDisk before).1 = .error t) := by
  obtain ⟨hsame, hstop⟩ := Plan.run_strict (fun t r => r = .error t) (w.run out)
    (hcalls.trans (List.nil_append calls).symm)
  obtain ⟨hbare, hmirrors⟩ := mirrors_run hd disk hr htop hempty ha
  constructor
  · intro hs
    rw [hsame hs] at hbare hmirrors
    exact foretells_of_mirrors hbare hmirrors
  · intro hno
    obtain ⟨t, ht, hend⟩ := hstop hno (w.givesUp_run out)
    refine ⟨t, ht, ?_⟩
    rw [hend] at hbare
    rcases bare_error hbare with ⟨hreal, -⟩ | ⟨f, f', rfl, -⟩
    · exact hreal
    · obtain ⟨_, _, _, _, hhalts⟩ := ht
      cases hhalts

/-- A run over a known model writes no half, if there is none in the texts that it is known by. -/
theorem spelled_of_known {given : List String} (hw : w.Known given) (hout : out.Stems given)
    (hgiven : ∀ t ∈ given, Text.Encodable t.toList) (disk : Disk) {calls : List Call}
    (hcalls : (((w.run out).run (Sink.ofMemory disk).recorded).run [] {}).1.2 = calls) :
    Call.Spelled calls := fun f hf =>
  (hw.conforms_run hout).tells_written (serves_ofMemory disk) (s := {}) nofun
    (hcalls.trans (List.nil_append calls).symm) f hf hgiven

theorem wellFormed_sample : sample.snapshot.WellFormed where
  typed := by decide +kernel
  targets := by decide +kernel
  hashable := by
    unfold Snapshot.Hashable
    decide +kernel
  ownersDiffer := by
    unfold Snapshot.OwnersDiffer
    decide +kernel
  base := by
    have hroot := Snapshot.rootEntry_mem_index sample.snapshot
    have hshop : ⟨sample.snapshot.base, some (Snapshot.rootSpot sample.snapshot.root)⟩ ∈
        sample.snapshot.index :=
      Snapshot.mem_index_of_owned hroot (Entry.mem_owned.2 ⟨List.mem_cons_self, rfl⟩)
    exact ⟨_, hshop, rfl⟩

theorem known_sample : sample.Known [] where
  wellFormed := wellFormed_sample
  spoken := by
    have htext {s : String} (h : IsUnsigned s) : (Json.text s).IsTextOf (Stems []) :=
      ⟨s, rfl, .of_unsigned h⟩
    have hdoc {s : String} (h : IsUnsigned s) : (Json.text s).IsTextOf (Whole []) :=
      (htext h).mono fun _ => Stems.whole
    have hplain {id name doc : String} {shape : Shape} {owned : List Element}
        (hid : IsUnsigned id) (hname : IsUnsigned name) (hd : IsUnsigned doc)
        (hshape : shape.Speaks (Whole [])) (howned : ∀ e ∈ owned, e.Spoken (Stems []) (Whole [])) :
        (Element.node ⟨.text id, .text name, .text doc⟩ shape owned).Spoken (Stems []) (Whole []) :=
      .node (htext hid) (htext hname) (hdoc hd) hshape howned
    have hclass {id name : String} (hid : IsUnsigned id) (hname : IsUnsigned name) :
        (sampleClass id name).Spoken (Stems []) (Whole []) :=
      hplain hid hname (by decide) ⟨List.forall_mem_nil _, List.forall_mem_nil _⟩
        (List.forall_mem_nil _)
    have hshop : sampleShop.Spoken (Stems []) (Whole []) := by
      refine hplain (by decide) (by decide) (by decide) trivial ?_
      simp only [List.forall_mem_cons]
      refine ⟨?_, hclass (by decide) (by decide), hclass (by decide) (by decide), ?_, ?_,
        List.forall_mem_nil _⟩
      · exact hplain (by decide) (by decide) (by decide) trivial
          (List.forall_mem_singleton.2 (hclass (by decide) (by decide)))
      · refine hplain (by decide) (by decide) (by decide) ?_ (List.forall_mem_nil _)
        exact List.forall_mem_cons.2
          ⟨hdoc (by decide), List.forall_mem_singleton.2 (hdoc (by decide))⟩
      · exact hplain (by decide) (by decide) (by decide) trivial (List.forall_mem_nil _)
    refine ⟨hplain (by decide) (by decide) (by decide) trivial
      (List.forall_mem_singleton.2 hshop), ?_⟩
    exact List.forall_mem_cons.2
      ⟨htext (by decide), List.forall_mem_singleton.2 (htext (by decide))⟩
  stock := rfl
  namePrefix := .of_unsigned (by decide)
  fileExtension := .of_unsigned (by decide)
  initFileName := .of_unsigned (by decide)
  baseClass := .of_encodable (by decide)

def plot : Disk := Disk.fresh.provide (.ofString "out") .directory

theorem ofString_out : Path.ofString "out" = ⟨.none, ["out"]⟩ := Path.ofString_plain (by decide)

theorem resolve_plot : plot.resolve (.ofString "out") = .ok ["", "", "out"] := by
  rw [Disk.resolve_eq_ok, ofString_out]
  exact ⟨by decide +kernel, by decide +kernel, by decide +kernel, by decide +kernel⟩

theorem get?_plot : plot.get? ["", "", "out"] = some .directory := by
  rw [plot, ofString_out]
  rfl

theorem get?_plot_below (below : List String) (hne : below ≠ []) :
    plot.get? (["", "", "out"] ++ below) = none := by
  simp [plot, ofString_out, Disk.get?, Disk.provide, Disk.fresh, Keyed.get?, Keyed.put, hne]

def torn : Workshop where
  snapshot :=
    let size := Element.node ⟨.text "e", .text "Size", .text ""⟩
      (.enumeration [.text (.ofList (Text.held 0xd800))]) []
    let shop := Element.node ⟨.text "s", .text "shop", .text ""⟩ .package [size]
    { root := shop, edges := [], base := Snapshot.rootSpot shop }
  options := {}

end Workshop
end UmlPress.Emit
