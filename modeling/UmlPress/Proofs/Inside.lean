import UmlPress.Proofs.DryRun
import UmlPress.Proofs.Writes

/-!
# Inside the output directory

Every path that a run hands to a store is the output directory with the names of
packages put below it one by one, and the name of a file or of a marker at the
end. Names are taken as the model has them. A name that starts with a slash
stands for itself, one with `..` in it leads up again, and one without any
component leads nowhere, so a path stays inside the output directory as long as
its names lead down.
-/
namespace UmlPress

namespace Path

/-- Further down from a directory, and never up on the way. -/
def IsInside (p out : Path) : Prop := ∃ names, names ≠ [] ∧ ".." ∉ names ∧ p = out.below names

def LeadsDown (name : String) : Prop :=
  (ofString name).root = .none ∧ ".." ∉ (ofString name).parts

instance (name : String) : Decidable (LeadsDown name) := inferInstanceAs (Decidable (_ ∧ _))

/-- Names that lead down one after the other, by at least one step. -/
def Descend (names : List String) : Prop :=
  (∀ n ∈ names, LeadsDown n) ∧ ∃ n ∈ names, (ofString n).parts ≠ []

instance (names : List String) : Decidable (Descend names) :=
  @instDecidableAnd _ _ (List.decidableBAll ..) (List.decidableBEx ..)

theorem isInside_iff {p out : Path} : p.IsInside out ↔ p.root = out.root ∧ out.parts <+: p.parts ∧
    p.parts.drop out.parts.length ≠ [] ∧ ".." ∉ p.parts.drop out.parts.length := by
  constructor
  · rintro ⟨names, hne, hdots, rfl⟩
    simp [below, hne, hdots]
  · rintro ⟨hroot, ⟨names, hnames⟩, hne, hdots⟩
    rw [← hnames, List.drop_left] at hne hdots
    refine ⟨names, hne, hdots, ?_⟩
    rw [below, hnames, ← hroot]

instance (p out : Path) : Decidable (p.IsInside out) := decidable_of_iff _ isInside_iff.symm

theorem root_child (p : Path) (name : String) :
    (p.child name).root = if (ofString name).root = .none then p.root else (ofString name).root := by
  unfold child join
  split <;> rfl

/-- A name with a root is not taken back by the names below it. -/
theorem root_foldl_child {p : Path} {names : List String}
    (h : p.root ≠ .none ∨ ∃ n ∈ names, (ofString n).root ≠ .none) :
    (names.foldl child p).root ≠ .none := by
  induction names generalizing p with
  | nil => simpa using h
  | cons n r ih =>
    rw [List.foldl_cons]
    refine ih ?_
    rw [root_child]
    by_cases hn : (ofString n).root = .none
    · rw [if_pos hn]
      refine h.imp_right fun ⟨m, hm, hroot⟩ => ?_
      rcases List.mem_cons.1 hm with rfl | hm
      · exact absurd hn hroot
      · exact ⟨m, hm, hroot⟩
    · rw [if_neg hn]
      exact .inl hn

/-- Names without a root put their components one behind the other. -/
theorem foldl_child_eq_below {p : Path} {names : List String}
    (h : ∀ n ∈ names, (ofString n).root = .none) :
    names.foldl child p = p.below (names.flatMap fun n => (ofString n).parts) := by
  induction names generalizing p with
  | nil => exact p.below_nil.symm
  | cons n r ih =>
    rw [List.forall_mem_cons] at h
    rw [List.foldl_cons, ih h.2, child, join_of_root_none h.1]
    simp [below]

theorem isInside_foldl_child {out : Path} {names : List String} (h : Descend names) :
    (names.foldl child out).IsInside out := by
  obtain ⟨hdown, n, hn, hparts⟩ := h
  refine ⟨_, ?_, ?_, foldl_child_eq_below fun n hn => (hdown n hn).1⟩
  · intro hnone
    exact hparts (List.flatMap_eq_nil_iff.1 hnone n hn)
  · intro hdots
    obtain ⟨m, hm, hmem⟩ := List.mem_flatMap.1 hdots
    exact (hdown m hm).2 hmem

/-- From a directory without a root, only names that lead down stay inside. -/
theorem descend_of_isInside {out : Path} {names : List String} (hout : out.root = .none)
    (h : (names.foldl child out).IsInside out) : Descend names := by
  obtain ⟨parts, hne, hdots, heq⟩ := h
  have hroot : ∀ n ∈ names, (ofString n).root = .none := by
    intro n hn
    by_contra hroot
    refine root_foldl_child (p := out) (.inr ⟨n, hn, hroot⟩) ?_
    rw [heq]
    exact hout
  rw [foldl_child_eq_below hroot, below_inj] at heq
  subst heq
  refine ⟨fun n hn => ⟨hroot n hn, fun hmem => hdots (List.mem_flatMap_of_mem hn hmem)⟩, ?_⟩
  by_contra! hnone
  exact hne (List.flatMap_eq_nil_iff.2 hnone)

end Path

namespace Emit

def Call.path : Call → Path
  | .makeDirectory p _ => p
  | .write p _ _ => p

namespace Workshop
variable {w : Workshop} {base full out : Path} {supply supply' : Supply} {calls : List Call}
  {result : Except Trouble Report} {steps : List Nat} {number : Nat} {below : List Visit}

def SpelledBy (base : Path) (products : List (List String)) (calls : List Call) : Prop :=
  ∀ c ∈ calls, ∃ names ∈ products, c.path = names.foldl Path.child base

theorem SpelledBy.mono {ps qs : List (List String)} (h : SpelledBy base ps calls)
    (hsub : ∀ names ∈ ps, names ∈ qs) : SpelledBy base qs calls := by
  intro c hc
  obtain ⟨names, hn, hpath⟩ := h c hc
  exact ⟨names, hsub names hn, hpath⟩

theorem spelledBy_leaf {facts : Facts} {shape : Shape} {owned : List Element}
    (hs : shape ≠ .package)
    (h : (w.emit base supply (.node facts shape owned)).Yields calls (result, supply')) :
    SpelledBy base (w.products (.node facts shape owned)) calls := by
  rcases yields_leaf hs h with ⟨rfl, -⟩ | ⟨text, name, answer, hcomposes, hname, rfl, -⟩
  · simp [SpelledBy]
  · refine List.forall_mem_singleton.2 ⟨[name], ?_, rfl⟩
    cases shape with
    | package => exact absurd rfl hs
    | other type => exact hcomposes.elim
    | unsupported => exact hcomposes.elim
    | _ => simp [products, hname]

theorem spelledBy_tourOwned {report : Report} {es : List Element}
    (ih : ∀ e ∈ es, ∀ steps supply calls result supply' below,
      (w.tour full steps supply e).Yields calls ((result, supply'), below) →
        SpelledBy full (w.products e) calls)
    (h : (w.tourOwned full steps number supply report es).Yields calls
      ((result, supply'), below)) : SpelledBy full (w.productsOf es) calls := by
  induction es generalizing number supply report calls below with
  | nil =>
    obtain ⟨rfl, -, -⟩ := yields_tourOwned_nil h
    simp [SpelledBy]
  | cons e r ihr =>
    obtain ⟨first, rest, next, supplyNext, inside, ending, rfl, he, h⟩ := yields_tourOwned_cons h
    have hfirst : SpelledBy full (w.productsOf (e :: r)) first :=
      (ih e List.mem_cons_self _ _ _ _ _ _ he).mono fun names hn => List.mem_append_left _ hn
    rcases h with ⟨t, -, rfl, -⟩ | ⟨report', after, -, hrest, -⟩
    · rwa [List.append_nil]
    · refine List.forall_mem_append.2 ⟨hfirst, ?_⟩
      exact (ihr (fun e he => ih e (List.mem_cons_of_mem _ he)) hrest).mono
        fun names hn => List.mem_append_right _ hn

/-- What the emission of an element calls a store for is spelled by the names of
the element and of what it owns. -/
theorem spelledBy_tour {e : Element}
    (h : (w.tour base steps supply e).Yields calls ((result, supply'), below)) :
    SpelledBy base (w.products e) calls := by
  induction e generalizing base steps supply calls result supply' below with
  | node facts shape owned ih =>
    by_cases hs : shape = .package
    · subst hs
      rcases yields_tour_package h with ⟨t, rfl, -⟩ | ⟨full, hp, h⟩
      · simp [SpelledBy]
      · cases hname : facts.name with
        | text s =>
          rw [hname] at hp
          obtain rfl : base.child s = full := Except.ok.inj hp
          have hproducts : w.products (.node facts .package owned) =
              [s] :: [s, w.options.initFileName] :: (w.productsOf owned).map (s :: ·) := by
            simp [products, hname]
          have hmade (answer : Answer) : ∃ names ∈ w.products (.node facts .package owned),
              (Call.makeDirectory (base.child s) answer).path = names.foldl Path.child base :=
            ⟨[s], by simp [hproducts], rfl⟩
          have hmarked (answer : Answer) : ∃ names ∈ w.products (.node facts .package owned),
              (Call.write (w.marker (base.child s)) "" answer).path = names.foldl Path.child base :=
            ⟨[s, w.options.initFileName], by simp [hproducts], rfl⟩
          rcases h with ⟨t, rfl, -⟩ | ⟨t, rfl, -⟩ | ⟨rest, rfl, hrest⟩
          · exact List.forall_mem_singleton.2 (hmade _)
          · exact List.forall_mem_cons.2 ⟨hmade _, List.forall_mem_singleton.2 (hmarked _)⟩
          · refine List.forall_mem_cons.2 ⟨hmade _, List.forall_mem_cons.2 ⟨hmarked _, ?_⟩⟩
            intro c hc
            obtain ⟨names, hn, hpath⟩ :=
              spelledBy_tourOwned (fun e he _ _ _ _ _ _ => ih e he) hrest c hc
            refine ⟨s :: names, ?_, hpath⟩
            rw [hproducts]
            exact List.mem_cons_of_mem _ (List.mem_cons_of_mem _ (List.mem_map_of_mem hn))
        | _ =>
          rw [hname] at hp
          cases hp
    · obtain ⟨-, he⟩ := yields_tour_leaf hs h
      exact spelledBy_leaf hs he

/-- On any store, each path that a run asks for is the output directory with some
names of the model put below it. It is inside the output directory if these names
lead down, and for an output directory without a root only then. -/
theorem calls_inside_iff (w : Workshop) (out : Path) {σ : Type} (sink : Sink (StateM σ))
    {st st' : σ} {r : Except Trouble Report} {calls : List Call}
    (h : ((w.run out).run sink.recorded).run [] st = ((r, calls), st')) :
    ∀ c ∈ calls, ∃ names ∈ w.products w.snapshot.base.element,
      c.path = names.foldl Path.child out ∧
      (Path.Descend names → c.path.IsInside out) ∧
      (out.root = .none → c.path.IsInside out → Path.Descend names) := by
  obtain ⟨calls', hrun, hy, -, -⟩ := (w.run out).run_recorded sink [] st
  rw [h] at hrun
  obtain ⟨⟨hr, rfl⟩, -⟩ := Prod.mk.inj hrun |>.imp_left Prod.mk.inj
  rw [← map_runTour, Plan.yields_map] at hy
  obtain ⟨⟨r', visits⟩, htour, -⟩ := hy
  obtain ⟨next, supplyNext, inside, ending, he, -, -⟩ := yields_runTour htour
  intro c hc
  obtain ⟨names, hn, hpath⟩ := spelledBy_tour he c hc
  refine ⟨names, hn, hpath, fun hdown => ?_, fun hout hin => ?_⟩
  · rw [hpath]
    exact Path.isInside_foldl_child hdown
  · rw [hpath] at hin
    exact Path.descend_of_isInside hout hin

/-- All names of the sample lead down, so all its calls are inside. -/
theorem calls_inside_iff_sample : ∃ calls r m',
    ((sample.run (.ofString "out")).run (Sink.ofMemory {}).recorded).run [] {} =
        ((r, calls), m') ∧
      calls.map (·.path.text) = ["out/shop", "out/shop/__init__.dart", "out/shop/parts",
        "out/shop/parts/__init__.dart", "out/shop/parts/Bolt.dart", "out/shop/Cart.dart",
        "out/shop/Size.dart"] ∧
      ∀ c ∈ calls, c.path.IsInside (.ofString "out") := by
  let ended := ((sample.run (.ofString "out")).run (Sink.ofMemory {}).recorded).run [] {}
  have hcalls : ended.1.2.map (·.path.text) = ["out/shop", "out/shop/__init__.dart",
      "out/shop/parts", "out/shop/parts/__init__.dart", "out/shop/parts/Bolt.dart",
      "out/shop/Cart.dart", "out/shop/Size.dart"] := by decide +kernel
  have hdown : ∀ names ∈ sample.products sample.snapshot.base.element, Path.Descend names := by
    decide +kernel
  cases hr : ended with
  | mk result m' =>
    obtain ⟨r, calls⟩ := result
    rw [hr] at hcalls
    refine ⟨calls, r, m', hr, hcalls, fun c hc => ?_⟩
    obtain ⟨names, hn, -, hinside, -⟩ := calls_inside_iff sample _ _ hr c hc
    exact hinside (hdown names hn)

def rooted : Workshop where
  snapshot :=
    let package : Element := .node ⟨.text "r", .text "/etc", .text ""⟩ .package []
    { root := package, edges := [], base := ⟨[], package⟩ }
  options := {}

/-- A package named like a place at the root is put there. -/
theorem rooted_outside : ∃ calls r m',
    ((rooted.run (.ofString "out")).run (Sink.ofMemory {}).recorded).run [] {} =
        ((r, calls), m') ∧
      ∃ c ∈ calls, c.path.text = "/etc" ∧ ¬ c.path.IsInside (.ofString "out") := by
  refine ⟨_, _, _, rfl, .makeDirectory (.ofString "/etc") (.ok ()), ?_, ?_, ?_⟩
  · exact List.mem_cons_self
  · decide +kernel
  · decide +kernel

end Workshop
end Emit
end UmlPress
