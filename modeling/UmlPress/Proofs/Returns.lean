import UmlPress.Proofs.Ensures
import UmlPress.Proofs.Steady
import UmlPress.Proofs.Tour
import UmlPress.Proofs.WellFormed

/-!
# Runs that return

Over a well-formed model, what comes of an element is told by its page: trouble of the
page is heeded by the visit to the element, and nothing but the page can put an end to
the run. With templates from stock a page meets faults alone, and a fault is put into the
report.
-/
namespace UmlPress.Emit

open Template (Folder Shelf)

/-- The trouble that a page can be in, with templates from a shelf. -/
inductive Trouble.OfPage (shelf : Shelf) : Trouble → Prop
  | unresolved (source target : Json) : OfPage shelf (.fault (.unresolved source target))
  | missing {name : String} : shelf.find? name = none →
    OfPage shelf (.fault (.missingTemplate name))
  | broken {name : String} {tree : Template.Tree} {vars : Keyed String Template.Value}
    {fault : Template.Fault} : shelf.find? name = some (.ok tree) →
    shelf.render name vars = .error (.broken name fault) →
    OfPage shelf (.fault (.brokenTemplate name fault.message))
  | unusable {name : String} {why : Template.Unusable} : shelf.find? name = some (.error why) →
    OfPage shelf (.unusable why)

theorem Trouble.ofPage_of_render {shelf : Shelf} {name : String}
    {vars : Keyed String Template.Value} {u : Template.Unrendered}
    (h : shelf.render name vars = .error u) : (Trouble.ofUnrendered u).OfPage shelf := by
  have hrender := h
  unfold Shelf.render at h
  cases hfind : shelf.find? name with
  | none =>
    rw [hfind] at h
    cases h
    exact .missing hfind
  | some read =>
    rw [hfind] at h
    cases read with
    | error why =>
      cases h
      exact .unusable hfind
    | ok tree =>
      dsimp only at h
      split at h
      · cases h
        exact .broken hfind hrender
      · cases happlied : shelf.apply name tree vars with
        | error fault =>
          rw [happlied] at h
          cases h
          exact .broken hfind hrender
        | ok text =>
          rw [happlied] at h
          cases h

theorem Composing.covers_ofPage (folder? : Option Folder) :
    Composing.Covers folder? (Trouble.OfPage (Supply.shelfOf folder?)) where
  unresolved := .unresolved
  template _ _ _ := Trouble.ofPage_of_render

/-- A template that cannot be used is one of the directory. -/
theorem Supply.find?_shelfOf_eq_error {folder? : Option Folder} {name : String}
    {why : Template.Unusable} (h : (shelfOf folder?).find? name = some (.error why)) :
    ∃ folder source, folder? = some folder ∧ folder.find? name = some source ∧
      source.tree? name = .error why := by
  obtain ⟨source, hsource, htree⟩ := Option.map_eq_some_iff.1 h
  change (folder?.toList ++ [Stock.folder]).findSome? (Folder.find? name) = _ at hsource
  obtain ⟨folder, hfolder, hfind⟩ := List.exists_of_findSome?_eq_some hsource
  rcases List.mem_append.1 hfolder with hown | hstock
  · exact ⟨folder, source, Option.mem_toList.1 hown, hfind, htree⟩
  · rw [List.mem_singleton.1 hstock] at hfind
    obtain ⟨t, rfl⟩ := Stock.eq_tree_of_find? hfind
    cases htree

namespace Workshop
variable {w : Workshop} {folder? : Option Folder} {look : Path → Found} {base full : Path}
  {supply : Supply} {steps : List Nat} {number : Nat}

def found (w : Workshop) (look : Path → Found) : Found :=
  match directory? w.options with
  | none => .ok none
  | some p => look p

/-- The page of an element that has one, with templates from a directory. -/
def pageOf? (w : Workshop) (folder? : Option Folder) : Element → Option (Except Trouble String)
  | .node facts (.classifier isInterface attributes operations) owned =>
    let e := Element.node facts (.classifier isInterface attributes operations) owned
    some (w.page (.ok folder?) {} (w.writeClass e)).1
  | .node facts (.enumeration literals) owned =>
    let e := Element.node facts (.enumeration literals) owned
    some (w.page (.ok folder?) {} (w.writeEnum e)).1
  | _ => none

/-- A fault is put into the report under the place of its element; any other trouble
puts an end to the run. -/
def Heeds (w : Workshop) (v : Visit) : Trouble → Prop
  | .fault f => ∃ place, w.snapshot.displayPath v.spot.element = .ok place ∧
    v.ending = .failed ⟨place, f⟩
  | t => v.ending = .stopped t

/-- What a part of a tour ends in agrees with the pages, those of its own elements and
those of the elements that it visited: trouble of a page is heeded, and trouble that is no
fault is that of a page. -/
structure Faithful (w : Workshop) (folder? : Option Folder) (own : List Element)
    (result : Except Trouble Report) (visits : List Visit) : Prop where
  page : ∀ e ∈ own, ∀ t, w.pageOf? folder? e = some (.error t) →
    t.OfPage (Supply.shelfOf folder?) ∧ result = .error t
  heeds : ∀ v ∈ visits, ∀ t, w.pageOf? folder? v.spot.element = some (.error t) →
    t.OfPage (Supply.shelfOf folder?) ∧ w.Heeds v t
  cause : ∀ t, result = .error t → t.IsFault ∨
    ∃ e ∈ own ++ visits.map (·.spot.element), w.pageOf? folder? e = some (.error t)

namespace Faithful
variable {result result' : Except Trouble Report} {visits visits' : List Visit}

theorem ok (report : Report) : w.Faithful folder? [] (.ok report) [] :=
  ⟨by simp, by simp, by rintro t ⟨⟩⟩

theorem append (h : w.Faithful folder? [] result visits)
    (h' : w.Faithful folder? [] result' visits') :
    w.Faithful folder? [] result' (visits ++ visits') where
  page := by simp
  heeds v hv := (List.mem_append.1 hv).elim (h.heeds v) (h'.heeds v)
  cause t ht := by
    rcases h'.cause t ht with hf | ⟨e, he, hpage⟩
    · exact .inl hf
    · rw [List.nil_append, List.map_append]
      exact .inr ⟨e, List.mem_append_right _ he, hpage⟩

/-- The visit to an element comes before those below it, and tells the trouble of its page. -/
theorem visited {v : Visit} (h : w.Faithful folder? [v.spot.element] result visits)
    (hv : ∀ t, result = .error t → w.Heeds v t) :
    w.Faithful folder? [] result (v :: visits) where
  page := by simp
  heeds := by
    refine List.forall_mem_cons.2 ⟨fun t hpage => ?_, h.heeds⟩
    obtain ⟨hkind, hresult⟩ := h.page _ (List.mem_singleton_self _) t hpage
    exact ⟨hkind, hv t hresult⟩
  cause := h.cause

end Faithful

theorem ensures_looking {α : Type} {next : Found → Plan α} {Q : α → Prop} :
    (w.looking next).Ensures look Q ↔ (next (w.found look)).Ensures look Q := by
  unfold looking found
  cases directory? w.options <;> rfl

/-- The file of an element is not written if its page is in trouble, or the store. -/
theorem ensures_emitFile (hfound : w.found look = .ok folder?) (hs : supply.Fits folder?)
    {e : Element} (htyped : e.isTyped = true) {compose : Composing Unit} {T : Trouble → Prop}
    (h : compose.Steady folder? T) :
    (w.emitFile base supply e compose).Ensures look fun a => a.2.Fits folder? ∧
      (∀ t, (w.page (.ok folder?) {} compose).1 = .error t → T t ∧ a.1 = .error t) ∧
      ∀ t, a.1 = .error t → t.IsFault ∨ (w.page (.ok folder?) {} compose).1 = .error t := by
  obtain ⟨hpage, hfits, htrouble⟩ := w.page_of_steady h hs (Supply.fits_empty folder?)
  obtain ⟨name, hname⟩ := w.exists_typeName htyped
  unfold emitFile
  rw [ensures_looking, hfound]
  dsimp only
  rw [hpage] at htrouble
  rw [Plan.ensures_noteAll, hpage, fileName, hname]
  generalize (w.page (.ok folder?) {} compose).1 = content at htrouble ⊢
  cases content with
  | error t =>
    refine ⟨hfits, ?_, ?_⟩
    · rintro _ ⟨⟩
      exact ⟨htrouble t rfl, rfl⟩
    · rintro _ ⟨⟩
      exact .inr rfl
  | ok text =>
    intro answer hanswer
    refine ⟨hfits, by rintro t ⟨⟩, fun t ht => .inl (hanswer t ?_)⟩
    cases answer with
    | error u =>
      cases ht
      rfl
    | ok made => cases ht

theorem faithful_leaf (hw : w.snapshot.WellFormed) (hfound : w.found look = .ok folder?)
    (hs : supply.Fits folder?) {facts : Facts} {shape : Shape} {owned : List Element}
    (hshape : shape ≠ .package) (htyped : (Element.node facts shape owned).isTyped = true) :
    (w.emit base supply (.node facts shape owned)).Ensures look fun a =>
      a.2.Fits folder? ∧ w.Faithful folder? [.node facts shape owned] a.1 [] := by
  have hfile {compose : Composing Unit}
      (hsteady : compose.Steady folder? (Trouble.OfPage (Supply.shelfOf folder?)))
      (hpage : w.pageOf? folder? (.node facts shape owned) =
        some (w.page (.ok folder?) {} compose).1) :
      (w.emitFile base supply (.node facts shape owned) compose).Ensures look fun a =>
        a.2.Fits folder? ∧ w.Faithful folder? [.node facts shape owned] a.1 [] := by
    refine (ensures_emitFile hfound hs htyped hsteady).mono ?_
    rintro ⟨result, supply'⟩ ⟨hfits, hown, hcause⟩
    refine ⟨hfits, ?_, by simp, ?_⟩
    · simpa [hpage] using hown
    · simpa [hpage] using hcause
  cases shape with
  | package => exact absurd rfl hshape
  | classifier isInterface attributes operations =>
    rw [emit]
    exact hfile (w.steady_writeClass (Composing.covers_ofPage folder?) rfl
      (.inl ⟨htyped, hw.exists_targetsOf _ hw.targets⟩)) rfl
  | enumeration literals =>
    rw [emit]
    exact hfile (w.steady_writeEnum (Composing.covers_ofPage folder?) rfl (.inl htyped)) rfl
  | other type =>
    rw [emit]
    exact ⟨hs, by simp [pageOf?], by simp, by rintro t ⟨⟩⟩
  | unsupported =>
    rw [emit]
    refine ⟨hs, by simp [pageOf?], by simp, ?_⟩
    rintro _ ⟨⟩
    exact .inl ⟨_, rfl⟩

/-- What is owned is visited one after the other, and what comes of each element is what
its page says. -/
theorem faithful_tourOwned (hw : w.snapshot.WellFormed) {es : List Element} {report : Report}
    (htyped : ∀ e ∈ es, e.isTyped = true) (hs : supply.Fits folder?)
    (ih : ∀ e ∈ es, e.isTyped = true → ∀ steps supply, supply.Fits folder? →
      (w.tour full steps supply e).Ensures look fun a =>
        a.1.2.Fits folder? ∧ w.Faithful folder? [e] a.1.1 a.2) :
    (w.tourOwned full steps number supply report es).Ensures look fun a =>
      a.1.2.Fits folder? ∧ w.Faithful folder? [] a.1.1 a.2 := by
  induction es generalizing number supply report with
  | nil =>
    rw [tourOwned]
    exact ⟨hs, .ok report⟩
  | cons e r ihr =>
    rw [List.forall_mem_cons] at htyped
    have ihr {number : Nat} {supply : Supply} {report : Report} (hs : supply.Fits folder?) :
        (w.tourOwned full steps number supply report r).Ensures look fun a =>
          a.1.2.Fits folder? ∧ w.Faithful folder? [] a.1.1 a.2 :=
      ihr htyped.2 hs fun e he => ih e (List.mem_cons_of_mem _ he)
    obtain ⟨place, hplace⟩ := hw.exists_displayPath (Element.isTyped_iff.1 htyped.1).1
    rw [tourOwned, Plan.ensures_bind]
    refine (ih e List.mem_cons_self htyped.1 _ _ hs).mono ?_
    rintro ⟨⟨result, supply'⟩, below⟩ ⟨hfits, h⟩
    let spot : Spot := ⟨number :: steps, e⟩
    rcases result with t | more
    · cases t with
      | fault f =>
        have hv : w.Faithful folder? [] (.error (.fault f))
            (⟨spot, full, .failed ⟨place, f⟩⟩ :: below) := by
          refine Faithful.visited h ?_
          rintro _ ⟨⟩
          exact ⟨place, hplace, rfl⟩
        dsimp only
        rw [hplace]
        refine Plan.ensures_map.2 ((ihr hfits).mono ?_)
        rintro ⟨⟨result, supply⟩, after⟩ ⟨hfits, hafter⟩
        exact ⟨hfits, hv.append hafter⟩
      | _ =>
        refine ⟨hfits, Faithful.visited h ?_⟩
        rintro _ ⟨⟩
        rfl
    · have hv : w.Faithful folder? [] (.ok more) (⟨spot, full, .emitted⟩ :: below) :=
        Faithful.visited h (by rintro t ⟨⟩)
      refine Plan.ensures_map.2 ((ihr hfits).mono ?_)
      rintro ⟨⟨result, supply⟩, after⟩ ⟨hfits, hafter⟩
      exact ⟨hfits, hv.append hafter⟩

theorem faithful_tour (hw : w.snapshot.WellFormed) (hfound : w.found look = .ok folder?)
    {e : Element} (htyped : e.isTyped = true) (hs : supply.Fits folder?) :
    (w.tour base steps supply e).Ensures look fun a =>
      a.1.2.Fits folder? ∧ w.Faithful folder? [e] a.1.1 a.2 := by
  induction e generalizing base steps supply with
  | node facts shape owned ih =>
    by_cases hshape : shape = .package
    · subst hshape
      obtain ⟨hname, -, -, howned⟩ := Element.isTyped_iff.1 htyped
      obtain ⟨name, hname⟩ := Json.eq_of_isText hname
      have hfault {t : Trouble} (ht : t.IsFault) : supply.Fits folder? ∧
          w.Faithful folder? [.node facts .package owned] (.error t) [] := by
        refine ⟨hs, by simp [pageOf?], by simp, ?_⟩
        rintro _ ⟨⟩
        exact .inl ht
      rw [tour, show facts.name = .text name from hname, packagePath]
      intro made hmade
      rcases made with t | ⟨⟨⟩⟩
      · exact hfault (hmade t rfl)
      · intro marked hmarked
        rcases marked with t | ⟨⟨⟩⟩
        · exact hfault (hmarked t rfl)
        · refine (faithful_tourOwned hw howned hs fun e he htyped _ _ => ih e he htyped).mono ?_
          rintro ⟨⟨result, supply⟩, below⟩ ⟨hfits, -, hheeds, hcause⟩
          refine ⟨hfits, by simp [pageOf?], hheeds, fun t ht => ?_⟩
          rcases hcause t ht with hf | ⟨e, he, hpage⟩
          · exact .inl hf
          · exact .inr ⟨e, List.mem_cons_of_mem _ he, hpage⟩
    · rw [tour]
      · exact Plan.ensures_map.2 (faithful_leaf hw hfound hs hshape htyped)
      · exact hshape

theorem faithful_runTour (hw : w.snapshot.WellFormed) (hfound : w.found look = .ok folder?)
    (out : Path) : (w.runTour out).Ensures look fun a => w.Faithful folder? [] a.1 a.2 := by
  obtain ⟨x, hx, hbase⟩ := hw.base
  have htyped := Snapshot.isTyped_of_mem_index hw.typed hx
  rw [hbase] at htyped
  obtain ⟨place, hplace⟩ := hw.exists_displayPath (Element.isTyped_iff.1 htyped).1
  rw [runTour, Plan.ensures_bind]
  refine (faithful_tour hw hfound htyped (Supply.fits_empty folder?)).mono ?_
  rintro ⟨⟨result, supply⟩, below⟩ ⟨-, h⟩
  have hok {report : Report} {ending : Ending}
      (h : w.Faithful folder? [] result (⟨w.snapshot.base, out, ending⟩ :: below)) :
      w.Faithful folder? [] (.ok report) (⟨w.snapshot.base, out, ending⟩ :: below) :=
    ⟨by simp, h.heeds, by rintro t ⟨⟩⟩
  rcases result with t | report
  · cases t with
    | fault f =>
      dsimp only
      rw [hplace]
      refine hok (Faithful.visited h ?_)
      rintro _ ⟨⟩
      exact ⟨place, hplace, rfl⟩
    | _ =>
      refine Faithful.visited h ?_
      rintro _ ⟨⟩
      rfl
  · refine Faithful.visited h ?_
    rintro t ⟨⟩

/-- What ends a run is a page that asks for a template which cannot be used. -/
theorem exists_unusable {out : Path} {result : Except Trouble Report} {visits : List Visit}
    {calls : List Call} (h : w.Faithful folder? [] result visits)
    (hy : (w.runTour out).Yields calls (result, visits)) {t : Trouble} (ht : result = .error t) :
    ∃ name why, (Supply.shelfOf folder?).find? name = some (.error why) ∧ t = .unusable why ∧
      ∃ v ∈ visits, w.pageOf? folder? v.spot.element = some (.error (.unusable why)) := by
  have hnot (f : Fault) : t ≠ .fault f := by
    obtain ⟨-, -, -, -, -, -, ⟨u, -, hu, hnot, -⟩ | ⟨report, -, -, hr⟩ |
      ⟨f', place, -, -, -, hr⟩⟩ := yields_runTour hy
    · cases ht.symm.trans hu
      exact hnot f
    · cases ht.symm.trans hr
    · cases ht.symm.trans hr
  rcases h.cause t ht with ⟨f, hf⟩ | ⟨e, he, hpage⟩
  · exact absurd hf (hnot f)
  · obtain ⟨v, hv, rfl⟩ := List.mem_map.1 he
    cases (h.heeds v hv t hpage).1 with
    | unusable hfind => exact ⟨_, _, hfind, rfl, v, hv, hpage⟩
    | _ => exact absurd rfl (hnot _)

/-- A run over a well-formed model returns a report if all templates are from stock. -/
theorem exists_report_memory (hw : w.snapshot.WellFormed) (hd : directory? w.options = none)
    (out : Path) (disk : Disk) (m : Memory) :
    ∃ report, ((w.run out).run (Sink.ofMemory disk) m).1 = .ok report := by
  have hfound : w.found (Folder.ofDisk disk) = .ok none := by rw [found, hd]
  have hfaithful := (faithful_runTour hw hfound out).run m
  rw [← map_runTour, Plan.run_map]
  rcases hrun : (w.runTour out).run (Sink.ofMemory disk) m with ⟨⟨t | report, visits⟩, m'⟩
  · obtain ⟨calls, hy⟩ := Plan.yields_of_run hrun
    rw [hrun] at hfaithful
    obtain ⟨name, why, hfind, -⟩ := exists_unusable hfaithful hy rfl
    obtain ⟨folder, -, hnone, -⟩ := Supply.find?_shelfOf_eq_error hfind
    cases hnone
  · exact ⟨report, rfl⟩

end Workshop
end UmlPress.Emit
