import UmlPress.Proofs.Calls

/-!
# A run with a record of its visits

A tour is an emission that also tells which elements were visited, the directory
that each was to be emitted to, and what came of it. Without the record it is
the emission itself. Each part of it is taken apart here by how it can end and
the calls that it makes, whatever store answers them; statements on whole runs
rest on that and do not look at the definitions again.
-/
namespace UmlPress.Emit

inductive Ending where
  | emitted
  | failed (f : Failure)
  /-- The trouble put an end to the run. -/
  | stopped (t : Trouble)

/-- An element that was handed on to be emitted, and the directory it was to be
emitted to. -/
structure Visit where
  spot : Spot
  base : Path
  ending : Ending

namespace Workshop

abbrev Tour := Plan ((Except Trouble Report × Supply) × List Visit)

mutual

def tour (w : Workshop) (base : Path) (steps : List Nat) (supply : Supply) : Element → Tour
  | .node facts .package owned =>
    match packagePath base facts.name with
    | .error t => .done ((.error t, supply), [])
    | .ok full =>
      .makeDirectory full fun
      | .error t => .done ((.error t, supply), [])
      | .ok _ => .write (w.marker full) "" fun
        | .error t => .done ((.error t, supply), [])
        | .ok _ =>
          w.tourOwned full steps 0 supply { generated := [w.marker full], directories := [full] }
            owned
  | .node facts shape owned => (w.emit base supply (.node facts shape owned)).map fun a => (a, [])

def tourOwned (w : Workshop) (full : Path) (steps : List Nat) (number : Nat) (supply : Supply)
    (report : Report) : List Element → Tour
  | [] => .done ((.ok report, supply), [])
  | e :: r =>
    let visits (ending : Ending) (below : List Visit) : List Visit :=
      ⟨⟨number :: steps, e⟩, full, ending⟩ :: below
    (w.tour full (number :: steps) supply e).bind fun
    | ((.ok more, supply), below) =>
      (w.tourOwned full steps (number + 1) supply (report ++ more) r).map fun a =>
        (a.1, visits .emitted below ++ a.2)
    | ((.error (.fault f), supply), below) =>
      match w.snapshot.displayPath e with
      | .error m => .done ((.error (.misuse m), supply), visits (.stopped (.misuse m)) below)
      | .ok place =>
        .note (failureNote place f)
          ((w.tourOwned full steps (number + 1) supply (report.fail place f) r).map fun a =>
            (a.1, visits (.failed ⟨place, f⟩) below ++ a.2))
    | ((.error t, supply), below) => .done ((.error t, supply), visits (.stopped t) below)

end

/-- A run that also tells its visits, the one to the base first. -/
def runTour (w : Workshop) (out : Path) : Plan (Except Trouble Report × List Visit) :=
  let start := w.snapshot.base
  let visits (ending : Ending) (below : List Visit) : List Visit := ⟨start, out, ending⟩ :: below
  (w.tour out start.steps {} start.element).bind fun
  | ((.ok report, _), below) =>
    .note (closingNote report) (.done (.ok report, visits .emitted below))
  | ((.error (.fault f), _), below) =>
    match w.snapshot.displayPath start.element with
    | .error m => .done (.error (.misuse m), visits (.stopped (.misuse m)) below)
    | .ok place =>
      let report := ({} : Report).fail place f
      .note (failureNote place f)
        (.note (closingNote report) (.done (.ok report, visits (.failed ⟨place, f⟩) below)))
  | ((.error t, _), below) => .done (.error t, visits (.stopped t) below)

theorem map_tourOwned {w : Workshop} {full : Path} {steps : List Nat} {number : Nat}
    {supply : Supply} {report : Report} {es : List Element}
    (ih : ∀ e ∈ es, ∀ steps supply, (w.tour full steps supply e).map Prod.fst =
      w.emit full supply e) :
    (w.tourOwned full steps number supply report es).map Prod.fst =
      w.emitOwned full supply report es := by
  induction es generalizing number supply report with
  | nil => rfl
  | cons e r ihr =>
    have hrest := fun e he => ih e (List.mem_cons_of_mem _ he)
    rw [tourOwned, emitOwned, ← ih e List.mem_cons_self (number :: steps) supply, Plan.bind_map,
      Plan.map_bind]
    congr 1
    funext ⟨⟨result, supplyNext⟩, below⟩
    rcases result with t | more
    · cases t with
      | fault f =>
        cases hd : w.snapshot.displayPath e with
        | error m => rfl
        | ok place =>
          show Plan.note _ _ = Plan.note _ _
          congr 1
          exact (Plan.map_bind _ _ _).trans (ihr hrest)
      | _ => rfl
    · exact (Plan.map_bind _ _ _).trans (ihr hrest)

/-- Without the record of visits, a tour is an emission. -/
theorem map_tour (w : Workshop) (base : Path) (steps : List Nat) (supply : Supply) (e : Element) :
    (w.tour base steps supply e).map Prod.fst = w.emit base supply e := by
  induction e generalizing base steps supply with
  | node facts shape owned ih =>
    cases shape with
    | package =>
      rw [tour, emit]
      cases packagePath base facts.name with
      | error t => rfl
      | ok full =>
        show Plan.makeDirectory full _ = Plan.makeDirectory full _
        congr 1
        funext made
        rcases made with t | ⟨⟨⟩⟩
        · rfl
        · show Plan.write _ _ _ = Plan.write _ _ _
          congr 1
          funext marked
          rcases marked with t | ⟨⟨⟩⟩
          · rfl
          · exact map_tourOwned fun e he steps supply => ih e he full steps supply
    | _ =>
      rw [tour]
      · exact (Plan.map_bind _ _ _).trans (Plan.bind_done_right _)
      · simp

theorem map_runTour (w : Workshop) (out : Path) : (w.runTour out).map Prod.fst = w.run out := by
  rw [runTour, run, ← w.map_tour out w.snapshot.base.steps, Plan.bind_map]
  refine (Plan.map_bind _ _ _).trans ?_
  congr 1
  funext ⟨⟨result, supplyNext⟩, below⟩
  rcases result with t | report
  · cases t with
    | fault f =>
      dsimp only
      cases w.snapshot.displayPath w.snapshot.base.element <;> rfl
    | _ => rfl
  · rfl

variable {w : Workshop} {base full : Path} {supply supply' : Supply} {calls : List Call}
  {result : Except Trouble Report} {steps : List Nat} {number : Nat} {below : List Visit}

theorem yields_looking {α : Type} {next : Found → Plan α} {a : α} :
    (w.looking next).Yields calls a ↔
      ∃ found, (directory? w.options = none → found = .ok none) ∧ (next found).Yields calls a := by
  unfold looking
  cases directory? w.options with
  | none => simp
  | some p => simp [Plan.yields_look]

/-- A page that is not composed, or has no name to be written under, is no call. -/
theorem yields_emitFile {e : Element} {compose : Composing Unit}
    (h : (w.emitFile base supply e compose).Yields calls (result, supply')) :
    ∃ found, (directory? w.options = none → found = .ok none) ∧
      supply' = (w.page found supply compose).2.2 ∧
      ((∃ t, (w.page found supply compose).1 = .error t ∧ calls = [] ∧ result = .error t) ∨
        (∃ m, w.fileName e = .error m ∧ calls = [] ∧ result = .error (.misuse m)) ∨
        ∃ text name answer, (w.page found supply compose).1 = .ok text ∧ w.fileName e = .ok name ∧
          calls = [.write (base.child name) text answer] ∧
          result = answer.map fun _ => { generated := [base.child name] }) := by
  obtain ⟨found, hf, h⟩ := yields_looking.1 h
  refine ⟨found, hf, ?_⟩
  rw [Plan.yields_noteAll] at h
  cases hc : (w.page found supply compose).1 with
  | error t =>
    simp only [hc, Plan.yields_done, Prod.mk.injEq] at h
    exact ⟨h.2.2, .inl ⟨t, rfl, h.1, h.2.1⟩⟩
  | ok text =>
    cases hn : w.fileName e with
    | error m =>
      simp only [hc, hn, Plan.yields_done, Prod.mk.injEq] at h
      exact ⟨h.2.2, .inr (.inl ⟨m, rfl, h.1, h.2.1⟩)⟩
    | ok name =>
      simp only [hc, hn, Plan.yields_write, Plan.yields_done, Prod.mk.injEq] at h
      obtain ⟨answer, rest, rfl, rfl, hr, hs⟩ := h
      exact ⟨hs, .inr (.inr ⟨text, name, answer, rfl, rfl, rfl, hr⟩)⟩

/-- What is composed for an element: its page, and nothing for a package, whose
file is the marker. -/
def Composes (w : Workshop) (text : String) : Element → Prop
  | .node _ .package _ => text = ""
  | .node facts (.classifier isInterface attributes operations) owned =>
    let e := Element.node facts (.classifier isInterface attributes operations) owned
    ∃ found supply, (directory? w.options = none → found = .ok none) ∧
      (w.page found supply (w.writeClass e)).1 = .ok text
  | .node facts (.enumeration literals) owned =>
    let e := Element.node facts (.enumeration literals) owned
    ∃ found supply, (directory? w.options = none → found = .ok none) ∧
      (w.page found supply (w.writeEnum e)).1 = .ok text
  | _ => False

/-- An element that is no package writes its own file, or nothing. -/
theorem yields_leaf {facts : Facts} {shape : Shape} {owned : List Element} (hs : shape ≠ .package)
    (h : (w.emit base supply (.node facts shape owned)).Yields calls (result, supply')) :
    (calls = [] ∧ ((∃ t, result = .error t) ∨ (∃ type, shape = .other type) ∧ result = .ok {})) ∨
      ∃ text name answer, w.Composes text (.node facts shape owned) ∧
        w.fileName (.node facts shape owned) = .ok name ∧
        calls = [.write (base.child name) text answer] ∧
        result = answer.map fun _ => { generated := [base.child name] } := by
  have hfile {compose : Composing Unit}
      (hcomposes : ∀ found text, (directory? w.options = none → found = .ok none) →
        (w.page found supply compose).1 = .ok text → w.Composes text (.node facts shape owned))
      (h : (w.emitFile base supply (.node facts shape owned) compose).Yields calls
        (result, supply')) :
      (calls = [] ∧ ((∃ t, result = .error t) ∨ (∃ type, shape = .other type) ∧ result = .ok {})) ∨
        ∃ text name answer, w.Composes text (.node facts shape owned) ∧
          w.fileName (.node facts shape owned) = .ok name ∧
          calls = [.write (base.child name) text answer] ∧
          result = answer.map fun _ => { generated := [base.child name] } := by
    obtain ⟨found, hfound, -, ⟨t, -, rfl, ht⟩ | ⟨m, -, rfl, hm⟩ |
      ⟨text, name, answer, hpage, hname, rfl, rfl⟩⟩ := yields_emitFile h
    · exact .inl ⟨rfl, .inl ⟨t, ht⟩⟩
    · exact .inl ⟨rfl, .inl ⟨_, hm⟩⟩
    · exact .inr ⟨text, name, answer, hcomposes found text hfound hpage, hname, rfl, rfl⟩
  cases shape with
  | package => exact absurd rfl hs
  | classifier isInterface attributes operations =>
    rw [emit] at h
    exact hfile (fun found text hfound hpage => ⟨found, supply, hfound, hpage⟩) h
  | enumeration literals =>
    rw [emit] at h
    exact hfile (fun found text hfound hpage => ⟨found, supply, hfound, hpage⟩) h
  | other type =>
    rw [emit, Plan.yields_note, Plan.yields_done] at h
    obtain ⟨hcalls, h⟩ := h
    cases h
    exact .inl ⟨hcalls, .inr ⟨⟨type, rfl⟩, rfl⟩⟩
  | unsupported =>
    rw [emit, Plan.yields_done] at h
    obtain ⟨hcalls, h⟩ := h
    cases h
    exact .inl ⟨hcalls, .inl ⟨_, rfl⟩⟩

/-- A package makes its directory, writes its marker and goes on to what it owns. -/
theorem yields_tour_package {facts : Facts} {owned : List Element}
    (h : (w.tour base steps supply (.node facts .package owned)).Yields calls
      ((result, supply'), below)) :
    (∃ t, calls = [] ∧ result = .error t ∧ below = [] ∧ packagePath base facts.name = .error t) ∨
      ∃ full, packagePath base facts.name = .ok full ∧
        ((∃ t, calls = [.makeDirectory full (.error t)] ∧ result = .error t ∧ below = []) ∨
          (∃ t, calls = [.makeDirectory full (.ok ()), .write (w.marker full) "" (.error t)] ∧
            result = .error t ∧ below = []) ∨
          ∃ rest, calls = .makeDirectory full (.ok ()) :: .write (w.marker full) "" (.ok ()) :: rest ∧
            (w.tourOwned full steps 0 supply
              { generated := [w.marker full], directories := [full] } owned).Yields rest
                ((result, supply'), below)) := by
  rw [tour] at h
  cases hp : packagePath base facts.name with
  | error t =>
    simp only [hp, Plan.yields_done, Prod.mk.injEq] at h
    exact .inl ⟨t, h.1, h.2.1.1, h.2.2, rfl⟩
  | ok full =>
    simp only [hp, Plan.yields_makeDirectory] at h
    obtain ⟨made, calls, rfl, h⟩ := h
    refine .inr ⟨full, rfl, ?_⟩
    rcases made with t | ⟨⟨⟩⟩
    · simp only [Plan.yields_done, Prod.mk.injEq] at h
      exact .inl ⟨t, by rw [h.1], h.2.1.1, h.2.2⟩
    · simp only [Plan.yields_write] at h
      obtain ⟨marked, calls, rfl, h⟩ := h
      rcases marked with t | ⟨⟨⟩⟩
      · simp only [Plan.yields_done, Prod.mk.injEq] at h
        exact .inr (.inl ⟨t, by rw [h.1], h.2.1.1, h.2.2⟩)
      · exact .inr (.inr ⟨calls, rfl, h⟩)

theorem yields_tourOwned_nil {report : Report}
    (h : (w.tourOwned full steps number supply report []).Yields calls
      ((result, supply'), below)) : calls = [] ∧ result = .ok report ∧ below = [] := by
  rw [tourOwned, Plan.yields_done, Prod.mk.injEq, Prod.mk.injEq] at h
  exact ⟨h.1, h.2.1.1, h.2.2⟩

/-- An owned element adds to the report, fails and is put into the report, or
ends the run. -/
theorem yields_tourOwned_cons {report : Report} {e : Element} {r : List Element}
    (h : (w.tourOwned full steps number supply report (e :: r)).Yields calls
      ((result, supply'), below)) :
    ∃ first rest next supplyNext inside ending, calls = first ++ rest ∧
      (w.tour full (number :: steps) supply e).Yields first ((next, supplyNext), inside) ∧
      ((∃ t, ending = .stopped t ∧ rest = [] ∧ result = .error t ∧ (∀ f, t ≠ .fault f) ∧
          (next = .error t ∨ ∃ m, w.snapshot.displayPath e = .error m) ∧
          below = ⟨⟨number :: steps, e⟩, full, ending⟩ :: inside) ∨
        ∃ report' after, below = ⟨⟨number :: steps, e⟩, full, ending⟩ :: (inside ++ after) ∧
          (w.tourOwned full steps (number + 1) supplyNext report' r).Yields rest
            ((result, supply'), after) ∧
          ((∃ more, next = .ok more ∧ ending = .emitted ∧ report' = report ++ more) ∨
            ∃ f place, next = .error (.fault f) ∧ ending = .failed ⟨place, f⟩ ∧
              w.snapshot.displayPath e = .ok place ∧ report' = report.fail place f)) := by
  rw [tourOwned, Plan.yields_bind] at h
  obtain ⟨first, rest, ⟨⟨next, supplyNext⟩, inside⟩, rfl, hfirst, h⟩ := h
  rcases next with t | more
  · cases t with
    | fault f =>
      cases hd : w.snapshot.displayPath e with
      | error m =>
        simp only [hd, Plan.yields_done, Prod.mk.injEq] at h
        exact ⟨first, rest, _, _, inside, _, rfl, hfirst,
          .inl ⟨_, rfl, h.1, h.2.1.1, by simp, .inr ⟨m, rfl⟩, h.2.2⟩⟩
      | ok place =>
        simp only [hd, Plan.yields_note, Plan.yields_map, Prod.mk.injEq] at h
        obtain ⟨⟨⟨_, _⟩, after⟩, hrest, ⟨rfl, rfl⟩, rfl⟩ := h
        exact ⟨first, rest, _, _, inside, _, rfl, hfirst,
          .inr ⟨_, after, rfl, hrest, .inr ⟨f, place, rfl, rfl, rfl, rfl⟩⟩⟩
    | _ =>
      simp only [Plan.yields_done, Prod.mk.injEq] at h
      exact ⟨first, rest, _, _, inside, _, rfl, hfirst,
        .inl ⟨_, rfl, h.1, h.2.1.1, by simp, .inl rfl, h.2.2⟩⟩
  · simp only [Plan.yields_map, Prod.mk.injEq] at h
    obtain ⟨⟨⟨_, _⟩, after⟩, hrest, ⟨rfl, rfl⟩, rfl⟩ := h
    exact ⟨first, rest, _, _, inside, _, rfl, hfirst,
      .inr ⟨_, after, rfl, hrest, .inl ⟨more, rfl, rfl, rfl⟩⟩⟩

/-- An element that is no package is emitted as it is, and nothing below it is
visited. -/
theorem yields_tour_leaf {facts : Facts} {shape : Shape} {owned : List Element}
    (hs : shape ≠ .package)
    (h : (w.tour base steps supply (.node facts shape owned)).Yields calls
      ((result, supply'), below)) :
    below = [] ∧ (w.emit base supply (.node facts shape owned)).Yields calls (result, supply') := by
  rw [tour] at h
  · obtain ⟨a, ha, h⟩ := Plan.yields_map.1 h
    cases h
    exact ⟨rfl, ha⟩
  · exact hs

/-- The base fails or ends the run or is emitted, and the visit to it says which. -/
theorem yields_runTour {out : Path} {r : Except Trouble Report} {visits : List Visit}
    (h : (w.runTour out).Yields calls (r, visits)) :
    ∃ next supplyNext inside ending,
      (w.tour out w.snapshot.base.steps {} w.snapshot.base.element).Yields calls
        ((next, supplyNext), inside) ∧
      visits = ⟨w.snapshot.base, out, ending⟩ :: inside ∧
      ((∃ t, ending = .stopped t ∧ r = .error t ∧ (∀ f, t ≠ .fault f) ∧
          (next = .error t ∨ ∃ m, w.snapshot.displayPath w.snapshot.base.element = .error m)) ∨
        (∃ report, next = .ok report ∧ ending = .emitted ∧ r = .ok report) ∨
        ∃ f place, next = .error (.fault f) ∧ ending = .failed ⟨place, f⟩ ∧
          w.snapshot.displayPath w.snapshot.base.element = .ok place ∧
          r = .ok (({} : Report).fail place f)) := by
  rw [runTour, Plan.yields_bind] at h
  obtain ⟨first, rest, ⟨⟨next, supplyNext⟩, inside⟩, rfl, hfirst, h⟩ := h
  rcases next with t | report
  · cases t with
    | fault f =>
      cases hd : w.snapshot.displayPath w.snapshot.base.element with
      | error m =>
        simp only [hd, Plan.yields_done, Prod.mk.injEq] at h
        obtain ⟨rfl, rfl, rfl⟩ := h
        rw [List.append_nil]
        exact ⟨_, _, inside, _, hfirst, rfl, .inl ⟨_, rfl, rfl, by simp, .inr ⟨m, rfl⟩⟩⟩
      | ok place =>
        simp only [hd, Plan.yields_note, Plan.yields_done, Prod.mk.injEq] at h
        obtain ⟨rfl, rfl, rfl⟩ := h
        rw [List.append_nil]
        exact ⟨_, _, inside, _, hfirst, rfl, .inr (.inr ⟨f, place, rfl, rfl, rfl, rfl⟩)⟩
    | _ =>
      simp only [Plan.yields_done, Prod.mk.injEq] at h
      obtain ⟨rfl, rfl, rfl⟩ := h
      rw [List.append_nil]
      exact ⟨_, _, inside, _, hfirst, rfl, .inl ⟨_, rfl, rfl, by simp, .inl rfl⟩⟩
  · simp only [Plan.yields_note, Plan.yields_done, Prod.mk.injEq] at h
    obtain ⟨rfl, rfl, rfl⟩ := h
    rw [List.append_nil]
    exact ⟨_, _, inside, _, hfirst, rfl, .inr (.inl ⟨report, rfl, rfl, rfl⟩)⟩

end Workshop

def sampleClass (id name : String) : Element :=
  .node ⟨.text id, .text name, .text ""⟩ (.classifier false [] []) []

def sampleShop : Element :=
  .node ⟨.text "s", .text "shop", .text ""⟩ .package
    [.node ⟨.text "q", .text "parts", .text ""⟩ .package [sampleClass "b" "bolt"],
     sampleClass "c" "cart", sampleClass "l" "lost",
     .node ⟨.text "e", .text "Size", .text "Sizes."⟩ (.enumeration [.text "S", .text "M"]) [],
     .node ⟨.text "n", .text "note", .text ""⟩ (.other (.text "UMLNote")) []]

def sample : Workshop where
  snapshot :=
    { root := .node ⟨.text "p", .text "project", .text ""⟩ .package [sampleShop]
      edges := [⟨.text "c", .text "b", .generalization⟩, ⟨.text "l", .text "z", .generalization⟩]
      base := ⟨[0], sampleShop⟩ }
  options := {}

end UmlPress.Emit
