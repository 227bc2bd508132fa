import UmlPress.Proofs.Coverage
import UmlPress.Proofs.Fresh
import UmlPress.Proofs.Writes

/-!
# Files that do not replace one another

A file is put into the directory of a package under a name that is made from the
name of an element, next to the marker of the package. Two packages never have
the same directory in one run, so one file can replace another one only within a
package. If the names in each package differ, no file is lost: each is in the
store with the content that was composed for it.
-/
namespace UmlPress

namespace Path

def IsSingle (name : String) : Prop :=
  (ofString name).root = .none ∧ (ofString name).parts.length = 1

instance (name : String) : Decidable (IsSingle name) := inferInstanceAs (Decidable (_ ∧ _))

/-- Names of one component lead to the same place only from the same directory. -/
theorem child_inj {p q : Path} {m n : String} (hm : IsSingle m) (hn : IsSingle n)
    (h : p.child m = q.child n) : p = q ∧ ofString m = ofString n := by
  obtain ⟨hmroot, hmlength⟩ := hm
  obtain ⟨hnroot, hnlength⟩ := hn
  rw [child, child, join_of_root_none hmroot, join_of_root_none hnroot, Path.mk.injEq] at h
  obtain ⟨hroot, hparts⟩ := h
  obtain ⟨hparts, hlast⟩ := List.append_inj' hparts (hmlength.trans hnlength.symm)
  refine ⟨?_, ?_⟩
  · rw [Path.mk.injEq]
    exact ⟨hroot, hparts⟩
  · cases hm : ofString m
    cases hn : ofString n
    simp_all

end Path

namespace Emit.Workshop
variable {w : Workshop} {base full : Path} {supply supply' : Supply} {calls : List Call}
  {result : Except Trouble Report} {steps : List Nat} {number : Nat} {below : List Visit}

def fileName? (w : Workshop) : Element → Option String
  | .node _ .package _ => none
  | .node _ (.other _) _ => none
  | .node _ .unsupported _ => none
  | e => (w.fileName e).toOption

/-- What is composed for an element goes into the file of its name. -/
theorem file_of_composes (w : Workshop) (base : Path) {e : Element} {text : String}
    (h : w.Composes text e)
    (hs : e.shape ≠ .package) : w.fileName? e = (w.fileName e).toOption ∧
      w.ownPath base e = (w.fileName e).toOption.map base.child := by
  obtain ⟨facts, shape, owned⟩ := e
  cases shape with
  | package => exact absurd rfl hs
  | other type => exact h.elim
  | unsupported => exact h.elim
  | _ => exact ⟨rfl, rfl⟩

def namesIn (w : Workshop) (owned : List Element) : List String :=
  w.options.initFileName :: owned.filterMap w.fileName?

mutual

/-- In every package the files have names of one component each that all differ. -/
def isClear (w : Workshop) : Element → Bool
  | .node _ .package owned =>
    (w.namesIn owned).all (Path.IsSingle ·) && decide ((w.namesIn owned).map Path.ofString).Nodup &&
      w.areClear owned
  | _ => true

def areClear (w : Workshop) : List Element → Bool
  | [] => true
  | e :: r => w.isClear e && w.areClear r

end

theorem areClear_iff {es : List Element} :
    w.areClear es = true ↔ ∀ e ∈ es, w.isClear e = true := by
  induction es with
  | nil => simp [areClear]
  | cons e r ih => simp [areClear, ih]

theorem isClear_package {facts : Facts} {owned : List Element}
    (h : w.isClear (.node facts .package owned) = true) :
    (∀ n ∈ w.namesIn owned, Path.IsSingle n) ∧ ((w.namesIn owned).map Path.ofString).Nodup ∧
      ∀ e ∈ owned, w.isClear e = true := by
  simpa [isClear, areClear_iff, and_assoc] using h

/-- The files that calls wrote are all different, and each is one of the given
files or has a name of one component in a directory that was made. -/
structure Scattered (files : List Path) (calls : List Call) : Prop where
  nodup : ((Call.written calls).map (·.1)).Nodup
  home : ∀ x ∈ Call.written calls, x.1 ∈ files ∨
    ∃ d ∈ Call.made calls, ∃ n, Path.IsSingle n ∧ x.1 = d.child n

/-- Calls that wrote no file are scattered. -/
theorem Scattered.of_written_eq_nil {files : List Path} (h : Call.written calls = []) :
    Scattered files calls := ⟨by simp [h], by simp [h]⟩

/-- What is put into a directory, at most one file of each name, and what is put
into directories below it, are different files. -/
theorem Scattered.append {xs ys : List String} {rest : List Call}
    (hx : ∀ n ∈ xs, Path.IsSingle n) (hy : ∀ n ∈ ys, Path.IsSingle n)
    (hnames : ((xs ++ ys).map Path.ofString).Nodup)
    (hmade : (full :: Call.made (calls ++ rest)).Nodup)
    (h : Scattered (xs.map full.child) calls) (h' : Scattered (ys.map full.child) rest) :
    Scattered ((xs ++ ys).map full.child) (calls ++ rest) := by
  rw [Call.made_append, List.nodup_cons, List.mem_append, not_or] at hmade
  obtain ⟨⟨hfirst, hlater⟩, hmade⟩ := hmade
  rw [List.map_append] at hnames
  have hdisjoint := (List.nodup_append.1 hnames).2.2
  have hdirectories := (List.nodup_append.1 hmade).2.2
  constructor
  case nodup =>
    rw [Call.written_append, List.map_append, List.nodup_append]
    refine ⟨h.nodup, h'.nodup, ?_⟩
    intro p hp q hq heq
    obtain ⟨x, hxmem, rfl⟩ := List.mem_map.1 hp
    obtain ⟨y, hymem, rfl⟩ := List.mem_map.1 hq
    -- each of the two stands in `full` itself or in a directory of its own side
    rcases h.home x hxmem with hxfile | ⟨d, hd, n, hn, hxd⟩
    · obtain ⟨n, hn, hxn⟩ := List.mem_map.1 hxfile
      rcases h'.home y hymem with hyfile | ⟨d', hd', n', hn', hyd⟩
      · obtain ⟨n', hn', hyn⟩ := List.mem_map.1 hyfile
        obtain ⟨-, hsame⟩ := Path.child_inj (hx n hn) (hy n' hn')
          (hxn.trans (heq.trans hyn.symm))
        exact hdisjoint _ (List.mem_map_of_mem hn) _ (List.mem_map_of_mem hn') hsame
      · obtain ⟨rfl, -⟩ := Path.child_inj (hx n hn) hn' (hxn.trans (heq.trans hyd))
        exact hlater hd'
    · rcases h'.home y hymem with hyfile | ⟨d', hd', n', hn', hyd⟩
      · obtain ⟨n', hn', hyn⟩ := List.mem_map.1 hyfile
        obtain ⟨rfl, -⟩ := Path.child_inj hn (hy n' hn') (hxd.symm.trans (heq.trans hyn.symm))
        exact hfirst hd
      · obtain ⟨rfl, -⟩ := Path.child_inj hn hn' (hxd.symm.trans (heq.trans hyd))
        exact hdirectories d hd d hd' rfl
  case home =>
    rw [Call.written_append, Call.made_append]
    intro x hxmem
    rw [List.map_append]
    rcases List.mem_append.1 hxmem with hxmem | hxmem
    · rcases h.home x hxmem with hfile | ⟨d, hd, hn⟩
      · exact .inl (List.mem_append_left _ hfile)
      · exact .inr ⟨d, List.mem_append_left _ hd, hn⟩
    · rcases h'.home x hxmem with hfile | ⟨d, hd, hn⟩
      · exact .inl (List.mem_append_right _ hfile)
      · exact .inr ⟨d, List.mem_append_right _ hd, hn⟩

/-- An element that is no package writes its own file at most. -/
theorem scattered_leaf {facts : Facts} {shape : Shape} {owned : List Element}
    (hs : shape ≠ .package)
    (h : (w.emit base supply (.node facts shape owned)).Yields calls (result, supply')) :
    Scattered ((w.fileName? (.node facts shape owned)).toList.map base.child) calls := by
  rcases yields_leaf hs h with ⟨rfl, -⟩ | ⟨text, name, answer, hcomposes, hname, rfl, -⟩
  · exact .of_written_eq_nil rfl
  · cases answer with
    | error t => exact .of_written_eq_nil rfl
    | ok u =>
      refine ⟨List.nodup_singleton _, List.forall_mem_singleton.2 (.inl ?_)⟩
      obtain ⟨hfile, -⟩ := w.file_of_composes base hcomposes hs
      rw [hfile, hname]
      exact List.mem_singleton_self _

theorem scattered_tourOwned {report : Report} {es : List Element}
    (ih : ∀ e ∈ es, w.isClear e = true → ∀ steps supply calls result supply' below,
      (Call.made calls).Nodup →
      (w.tour full steps supply e).Yields calls ((result, supply'), below) →
        Scattered ((w.fileName? e).toList.map full.child) calls)
    (hclear : ∀ e ∈ es, w.isClear e = true)
    (hsingle : ∀ n ∈ es.filterMap w.fileName?, Path.IsSingle n)
    (hnames : ((es.filterMap w.fileName?).map Path.ofString).Nodup)
    (hmade : (full :: Call.made calls).Nodup)
    (h : (w.tourOwned full steps number supply report es).Yields calls
      ((result, supply'), below)) :
    Scattered ((es.filterMap w.fileName?).map full.child) calls := by
  induction es generalizing number supply report calls below with
  | nil =>
    obtain ⟨rfl, -, -⟩ := yields_tourOwned_nil h
    exact .of_written_eq_nil rfl
  | cons e r ihr =>
    obtain ⟨first, rest, next, supplyNext, inside, ending, rfl, he, h⟩ := yields_tourOwned_cons h
    have hsplit : (e :: r).filterMap w.fileName? =
        (w.fileName? e).toList ++ r.filterMap w.fileName? := by
      rw [List.filterMap_cons]
      cases w.fileName? e <;> rfl
    rw [hsplit] at hsingle hnames ⊢
    rw [List.forall_mem_append] at hsingle
    have hmade' := hmade
    rw [Call.made_append, List.nodup_cons, List.mem_append, not_or, List.nodup_append] at hmade'
    obtain ⟨⟨hfirst, hlater⟩, hnodup, hnodup', -⟩ := hmade'
    have hown := ih e List.mem_cons_self (hclear e List.mem_cons_self) _ _ _ _ _ _ hnodup he
    rcases h with ⟨t, -, rfl, -⟩ | ⟨report', after, -, hrest, -⟩
    · exact hown.append hsingle.1 hsingle.2 hnames hmade (.of_written_eq_nil rfl)
    · refine hown.append hsingle.1 hsingle.2 hnames hmade ?_
      rw [List.map_append] at hnames
      exact ihr (fun e he => ih e (List.mem_cons_of_mem _ he))
        (fun e he => hclear e (List.mem_cons_of_mem _ he)) hsingle.2
        (List.nodup_append.1 hnames).2.1 (List.nodup_cons.2 ⟨hlater, hnodup'⟩) hrest

/-- With directories that are all different and clear packages, no file is
written twice. -/
theorem scattered_tour {e : Element} (hclear : w.isClear e = true) (hmade : (Call.made calls).Nodup)
    (h : (w.tour base steps supply e).Yields calls ((result, supply'), below)) :
    Scattered ((w.fileName? e).toList.map base.child) calls := by
  induction e generalizing base steps supply calls result supply' below with
  | node facts shape owned ih =>
    by_cases hs : shape = .package
    · subst hs
      rcases yields_tour_package h with ⟨t, rfl, -⟩ | ⟨full, -, ⟨t, rfl, -⟩ | ⟨t, rfl, -⟩ |
        ⟨rest, rfl, hrest⟩⟩
      · exact .of_written_eq_nil rfl
      · exact .of_written_eq_nil rfl
      · exact .of_written_eq_nil rfl
      · obtain ⟨hsingle, hnames, howned⟩ := isClear_package hclear
        rw [namesIn, List.forall_mem_cons] at hsingle
        have hbelow : Scattered ((owned.filterMap w.fileName?).map full.child) rest := by
          exact scattered_tourOwned (fun e he hclear _ _ _ _ _ _ => ih e he hclear) howned
            hsingle.2 (List.nodup_cons.1 hnames).2 hmade hrest
        have hmarker : Scattered ([w.options.initFileName].map full.child)
            [.write (w.marker full) "" (.ok ())] :=
          ⟨List.nodup_singleton _, by simp [marker]⟩
        have hsplit : (full :: Call.made ([.write (w.marker full) "" (.ok ())] ++ rest)).Nodup :=
          hmade
        have hall := hmarker.append (List.forall_mem_singleton.2 hsingle.1) hsingle.2 hnames hsplit
          hbelow
        refine ⟨hall.nodup, fun x hx => .inr ?_⟩
        rcases hall.home x hx with hfile | ⟨d, hd, hn⟩
        · obtain ⟨n, hn, hxn⟩ := List.mem_map.1 hfile
          exact ⟨full, List.mem_cons_self, n, List.forall_mem_cons.2 hsingle n hn, hxn.symm⟩
        · exact ⟨d, List.mem_cons_of_mem _ hd, hn⟩
    · obtain ⟨-, he⟩ := yields_tour_leaf hs h
      exact scattered_leaf hs he

/-- On a store that makes each directory once, a run over a clear model writes
no file twice. -/
theorem nodup_generated {σ : Type} {sink : Sink (StateM σ)} {has : σ → Path → Prop}
    (hs : sink.MakesOnce has) (hclear : w.isClear w.snapshot.base.element = true) {out : Path}
    {st st' : σ} {report : Report} (h : (w.run out).run sink st = (.ok report, st')) :
    report.generated.Nodup := by
  obtain ⟨calls, hrun, hy, -⟩ := (w.run out).run_recorded sink [] st
  have hmade := ((w.run out).nodup_made hs (congrArg (·.1.2) hrun)).1
  rw [h] at hy
  obtain ⟨visits, htour⟩ := exists_visits hy
  obtain ⟨next, supplyNext, inside, ending, he, -, -⟩ := yields_runTour htour
  rw [generated_eq_written hy]
  exact (scattered_tour hclear hmade he).nodup

def Deposited (w : Workshop) (visits : List Visit) (calls : List Call) : Prop :=
  ∀ v ∈ visits, v.ending = .emitted → v.spot.element.isOther = false →
    ∃ x ∈ Call.written calls, w.ownPath v.base v.spot.element = some x.1 ∧
      w.Composes x.2 v.spot.element

theorem Deposited.nil (calls : List Call) : w.Deposited [] calls := by simp [Deposited]

theorem Deposited.mono {visits : List Visit} {calls' : List Call} (h : w.Deposited visits calls)
    (hsub : Call.written calls ⊆ Call.written calls') : w.Deposited visits calls' := by
  intro v hv hending hother
  obtain ⟨x, hx, hpath⟩ := h v hv hending hother
  exact ⟨x, hsub hx, hpath⟩

theorem Deposited.append {vs vs' : List Visit} {rest : List Call} (h : w.Deposited vs calls)
    (h' : w.Deposited vs' rest) : w.Deposited (vs ++ vs') (calls ++ rest) := by
  refine List.forall_mem_append.2 ⟨h.mono ?_, h'.mono ?_⟩
  · rw [Call.written_append]
    exact List.subset_append_left _ _
  · rw [Call.written_append]
    exact List.subset_append_right _ _

/-- An element that is no package is deposited by its own file. -/
theorem deposited_leaf {facts : Facts} {shape : Shape} {owned : List Element} {report : Report}
    (hs : shape ≠ .package)
    (h : (w.emit base supply (.node facts shape owned)).Yields calls (.ok report, supply')) :
    w.Deposited [⟨⟨steps, .node facts shape owned⟩, base, .emitted⟩] calls := by
  refine List.forall_mem_singleton.2 fun _ hother => ?_
  rcases yields_leaf hs h with ⟨-, ⟨t, ht⟩ | ⟨⟨type, rfl⟩, -⟩⟩ |
    ⟨text, name, answer, hcomposes, hname, rfl, hr⟩
  · cases ht
  · cases hother
  · cases answer with
    | error t => cases hr
    | ok u =>
      refine ⟨(base.child name, text), List.mem_singleton_self _, ?_, hcomposes⟩
      obtain ⟨-, hpath⟩ := w.file_of_composes base hcomposes hs
      rw [hpath, hname]
      rfl

theorem deposited_tourOwned {report : Report} {es : List Element}
    (ih : ∀ e ∈ es, ∀ steps supply calls result supply' below ending,
      (w.tour full steps supply e).Yields calls ((result, supply'), below) →
        (ending = .emitted → ∃ report, result = .ok report) →
          w.Deposited (⟨⟨steps, e⟩, full, ending⟩ :: below) calls)
    (h : (w.tourOwned full steps number supply report es).Yields calls
      ((result, supply'), below)) : w.Deposited below calls := by
  induction es generalizing number supply report calls below with
  | nil =>
    obtain ⟨-, -, rfl⟩ := yields_tourOwned_nil h
    exact .nil _
  | cons e r ihr =>
    obtain ⟨first, rest, next, supplyNext, inside, ending, rfl, he, h⟩ := yields_tourOwned_cons h
    rcases h with ⟨t, rfl, rfl, -, -, -, rfl⟩ | ⟨report', after, rfl, hrest, h⟩
    · rw [List.append_nil]
      exact ih e List.mem_cons_self _ _ _ _ _ _ _ he (by simp)
    · have hfirst : w.Deposited (⟨⟨number :: steps, e⟩, full, ending⟩ :: inside) first := by
        refine ih e List.mem_cons_self _ _ _ _ _ _ _ he fun hemitted => ?_
        rcases h with ⟨more, hnext, -⟩ | ⟨f, place, -, rfl, -⟩
        · exact ⟨more, hnext⟩
        · cases hemitted
      exact hfirst.append (ihr (fun e he => ih e (List.mem_cons_of_mem _ he)) hrest)

theorem deposited_tour {e : Element} {ending : Ending}
    (h : (w.tour base steps supply e).Yields calls ((result, supply'), below))
    (hending : ending = .emitted → ∃ report, result = .ok report) :
    w.Deposited (⟨⟨steps, e⟩, base, ending⟩ :: below) calls := by
  induction e generalizing base steps supply calls result supply' below ending with
  | node facts shape owned ih =>
    by_cases hs : shape = .package
    · subst hs
      have hfailed (t : Trouble) (hr : result = .error t) (hbelow : below = []) :
          w.Deposited (⟨⟨steps, .node facts .package owned⟩, base, ending⟩ :: below) calls := by
        rw [hbelow]
        refine List.forall_mem_singleton.2 fun hemitted _ => ?_
        obtain ⟨report, hreport⟩ := hending hemitted
        cases hr.symm.trans hreport
      rcases yields_tour_package h with ⟨t, -, hr, hb, -⟩ | ⟨full, hp, ⟨t, -, hr, hb⟩ |
        ⟨t, -, hr, hb⟩ | ⟨rest, rfl, hrest⟩⟩
      · exact hfailed t hr hb
      · exact hfailed t hr hb
      · exact hfailed t hr hb
      · have hown : w.Deposited [⟨⟨steps, .node facts .package owned⟩, base, ending⟩]
            [.makeDirectory full (.ok ()), .write (w.marker full) "" (.ok ())] := by
          refine List.forall_mem_singleton.2 fun _ _ => ?_
          exact ⟨(w.marker full, ""), List.mem_singleton_self _,
            by simp [ownPath, hp, Except.toOption], rfl⟩
        exact hown.append (deposited_tourOwned (fun e he _ _ _ _ _ _ _ => ih e he) hrest)
    · obtain ⟨rfl, he⟩ := yields_tour_leaf hs h
      cases ending with
      | emitted =>
        obtain ⟨report, rfl⟩ := hending rfl
        exact deposited_leaf hs he
      | _ => exact List.forall_mem_singleton.2 (by simp)

theorem deposited_runTour {out : Path} {r : Except Trouble Report} {visits : List Visit}
    (h : (w.runTour out).Yields calls (r, visits)) : w.Deposited visits calls := by
  obtain ⟨next, supplyNext, inside, ending, he, rfl, hend⟩ := yields_runTour h
  refine deposited_tour he fun hemitted => ?_
  rcases hend with ⟨t, rfl, -⟩ | ⟨report, hnext, -⟩ | ⟨f, place, -, rfl, -⟩
  · cases hemitted
  · exact ⟨report, hnext⟩
  · cases hemitted

/-- A run has its visits. -/
theorem exists_runTour {σ : Type} {sink : Sink (StateM σ)} {out : Path} {st st' : σ}
    (h : (w.run out).run sink st = (result, st')) :
    ∃ visits, (w.runTour out).run sink st = ((result, visits), st') := by
  rw [← map_runTour, Plan.run_map] at h
  obtain ⟨hr, hst⟩ := Prod.mk.inj h
  exact ⟨_, Prod.ext (Prod.ext hr rfl) hst⟩

/-- If the files of each package have names of one component that all differ, a
run lists no file twice, in a store in memory and on a file system. Each element
that was emitted then has its own file in the store, with what was composed for
it. -/
theorem no_file_replaced (w : Workshop) (out : Path)
    (hclear : w.isClear w.snapshot.base.element = true) :
    (∀ (disk : Disk) (m m' : Memory) (report : Report),
      (w.run out).run (Sink.ofMemory disk) m = (.ok report, m') → report.generated.Nodup ∧
        ∃ visits, (w.runTour out).run (Sink.ofMemory disk) m = ((.ok report, visits), m') ∧
          report.generated = visits.filterMap w.path? ∧
          ∀ v ∈ visits, v.ending = .emitted → v.spot.element.isOther = false →
            ∃ p text, w.path? v = some p ∧ w.Composes text v.spot.element ∧
              m'.read? p = some text) ∧
    ∀ (d d' : Disk) (report : Report),
      (w.run out).run Sink.ofDisk d = (.ok report, d') → report.generated.Nodup := by
  refine ⟨fun disk m m' report h => ?_, fun d d' report => nodup_generated makesOnce_ofDisk hclear⟩
  have hnodup := nodup_generated (makesOnce_ofMemory disk) hclear h
  obtain ⟨visits, htour⟩ := exists_runTour h
  obtain ⟨calls, -, hy, -, hs⟩ := (w.runTour out).run_recorded (Sink.ofMemory disk) [] m
  rw [htour] at hy hs
  have hfinal : m' = calls.foldl Memory.accept m := hs _ (Memory.changesBy_accept disk)
  have haccount := accounted_runTour hy
  refine ⟨hnodup, visits, htour, haccount.generated, fun v hv hending hother => ?_⟩
  obtain ⟨⟨p, text⟩, hx, hpath, hcomposes⟩ := deposited_runTour hy v hv hending hother
  refine ⟨p, text, by simp [path?, share?, hending, hpath], hcomposes, ?_⟩
  have hkeys : ((Call.written calls).map (·.1)).Nodup := by
    rw [haccount.written]
    exact hnodup
  rw [Memory.read?, hfinal, Memory.foldl_accept_files, Keyed.get?_update,
    Keyed.last?_of_mem hkeys hx]
  rfl

/-- The packages of the sample are clear, so its files are all kept. -/
theorem no_file_replaced_sample : ∃ visits report m',
    (sample.runTour (.ofString "out")).run (Sink.ofMemory {}) {} = ((.ok report, visits), m') ∧
      report.generated.map Path.text =
        ["out/shop/__init__.dart", "out/shop/parts/__init__.dart", "out/shop/parts/Bolt.dart",
          "out/shop/Cart.dart", "out/shop/Size.dart"] ∧
      report.generated.Nodup ∧
      ∀ v ∈ visits, v.ending = .emitted → v.spot.element.isOther = false →
        ∃ p text, sample.path? v = some p ∧ sample.Composes text v.spot.element ∧
          m'.read? p = some text := by
  let ended := (sample.run (.ofString "out")).run (Sink.ofMemory {}) {}
  have hclear : sample.isClear sample.snapshot.base.element = true := by decide +kernel
  have hreport : (ended.1.toOption.map fun r => r.generated.map Path.text) =
      some ["out/shop/__init__.dart", "out/shop/parts/__init__.dart", "out/shop/parts/Bolt.dart",
        "out/shop/Cart.dart", "out/shop/Size.dart"] := by decide +kernel
  cases hr : ended with
  | mk result m' =>
    rw [hr] at hreport
    rcases result with t | report
    · cases hreport
    · obtain ⟨hnodup, visits, htour, -, hkept⟩ :=
        (no_file_replaced sample (.ofString "out") hclear).1 {} {} m' report hr
      exact ⟨visits, report, m', htour, Option.some.inj hreport, hnodup, hkept⟩

def doubled : Workshop where
  snapshot :=
    let shop : Element := .node ⟨.text "s", .text "shop", .text ""⟩ .package
      [sampleClass "c" "cart", .node ⟨.text "d", .text "Cart", .text ""⟩ (.enumeration [.text "A"]) []]
    { root := shop, edges := [], base := ⟨[], shop⟩ }
  options := {}

/-- The enumeration takes the place of the class, and the run is a success. -/
theorem doubled_file_replaced : ∃ report m',
    (doubled.run (.ofString "out")).run (Sink.ofMemory {}) {} = (.ok report, m') ∧
      report.failures.length = 0 ∧
      report.generated.map Path.text =
        ["out/shop/__init__.dart", "out/shop/Cart.dart", "out/shop/Cart.dart"] ∧
      ¬ report.generated.Nodup ∧ m'.files.length = 2 := by
  let ended := (doubled.run (.ofString "out")).run (Sink.ofMemory {}) {}
  have hfiles : ended.2.files.length = 2 := by decide +kernel
  have hreport : (ended.1.toOption.map fun r =>
      (r.failures.length, r.generated.map Path.text, decide r.generated.Nodup)) =
      some (0, ["out/shop/__init__.dart", "out/shop/Cart.dart", "out/shop/Cart.dart"], false) := by
    decide +kernel
  cases hr : ended with
  | mk result m' =>
    rw [hr] at hreport hfiles
    rcases result with t | report
    · cases hreport
    · obtain ⟨hfailures, hgenerated⟩ := Prod.mk.inj (Option.some.inj hreport)
      obtain ⟨hgenerated, hnodup⟩ := Prod.mk.inj hgenerated
      exact ⟨report, m', hr, hfailures, hgenerated, of_decide_eq_false hnodup, hfiles⟩

end Emit.Workshop
end UmlPress
