import UmlPress.Proofs.Flawless
import UmlPress.Proofs.Reordered

/-!
# The order of siblings

A model in another order asks for the same directories and files in another order. If
a run over the one has no failure and writes no file twice, a run over the other has no
failure either and leaves the same in the store.
-/
namespace UmlPress.Emit.Workshop
variable {w : Workshop} {s : Snapshot} {base full : Path}

def bag (asked : Option (List Request)) : Option (Multiset Request) := asked.map Multiset.ofList

theorem bag_append (asked later : Option (List Request)) :
    bag (Option.map₂ (· ++ ·) asked later) = Option.map₂ (· + ·) (bag asked) (bag later) := by
  cases asked <;> cases later <;> rfl

theorem bag_requestsOf_cons (e : Element) (r : List Element) :
    bag (w.requestsOf full (e :: r)) =
      Option.map₂ (· + ·) (bag (w.requests full e)) (bag (w.requestsOf full r)) := by
  rw [requestsOf, bag_append]

theorem bag_requestsOf_perm {es es' : List Element} (h : es.Perm es') :
    bag (w.requestsOf full es) = bag (w.requestsOf full es') := by
  induction h with
  | nil => rfl
  | cons e h ih => rw [bag_requestsOf_cons, bag_requestsOf_cons, ih]
  | swap e e' r =>
    simp only [bag_requestsOf_cons]
    exact Option.map₂_left_comm fun a b c => add_left_comm a b c
  | trans h h' ih ih' => rw [ih, ih']

/-- Elements that ask for the same, in any order of their own, ask for the same together. -/
theorem bag_requestsOf_rel {w' : Workshop} {es es' : List Element}
    (h : Multiset.Rel (fun e e' => bag (w'.requests full e') = bag (w.requests full e))
      (es : Multiset Element) es') :
    bag (w'.requestsOf full es') = bag (w.requestsOf full es) := by
  induction es generalizing es' with
  | nil =>
    rw [Multiset.coe_nil, Multiset.rel_zero_left, Multiset.coe_eq_zero] at h
    rw [h]
    rfl
  | cons e r ih =>
    rw [← Multiset.cons_coe, Multiset.rel_cons_left] at h
    obtain ⟨e', rest, he, hrest, hes⟩ := h
    induction rest using Quotient.inductionOn with
    | h r' =>
      have hperm : es'.Perm (e' :: r') := Multiset.coe_eq_coe.1 hes
      rw [bag_requestsOf_perm hperm, bag_requestsOf_cons, bag_requestsOf_cons, he, ih hrest]

/-- In a model in another order an element asks for the same. -/
theorem bag_requests (base : Path) (h : w.snapshot.Like s) {e e' : Element} (he : e.Reordered e') :
    bag ((w.withSnapshot s).requests base e') = bag (w.requests base e) := by
  induction e generalizing base e' with
  | node facts shape owned ih =>
    obtain ⟨_, _, howned⟩ := he
    rename_i owned'
    cases shape with
    | package =>
      rw [requests, requests]
      cases packagePath base facts.name with
      | error t => rfl
      | ok full =>
        have hrel : Multiset.Rel (fun e e' => bag ((w.withSnapshot s).requests full e') =
            bag (w.requests full e)) (owned : Multiset Element) owned' :=
          howned.mono fun e he e' _ hee' => ih e he full hee'
        dsimp only
        rw [bag_append, bag_append, bag_requestsOf_rel hrel]
        rfl
    | classifier isInterface attributes operations =>
      rw [requests, requests, writeClass_withSnapshot owned h]
      rfl
    | enumeration literals =>
      rw [requests, requests]
      rfl
    | other type => rfl
    | unsupported => rfl

/-- The order of siblings does not matter. If all ids differ and a run on a store in
memory has no failure and writes no file twice, a run over the model in any other order
from the same store has no failure either. It ends with the same files, each with the
same content, and with the same directories, and reports them in another order. -/
theorem order_of_siblings (w : Workshop) (out : Path) (disk : Disk) {m m' : Memory}
    {report : Report} (hreordered : w.snapshot.Reordered s) (hh : w.snapshot.Hashable)
    (hdistinct : w.snapshot.Distinct) (hd : directory? w.options = none)
    (hrun : (w.run out).run (Sink.ofMemory disk) m = (.ok report, m'))
    (hflawless : report.failures = []) (hnodup : report.generated.Nodup) :
    ∃ report' m'', ((w.withSnapshot s).run out).run (Sink.ofMemory disk) m = (.ok report', m'') ∧
      report'.failures = [] ∧ (∀ p, m''.read? p = m'.read? p) ∧
      (∀ p, p ∈ m''.directories ↔ p ∈ m'.directories) ∧ (∀ p, p ∈ m''.known ↔ p ∈ m'.known) ∧
      report'.generated.Perm report.generated ∧ report'.directories.Perm report.directories := by
  have hlike := hreordered.like hh hdistinct
  obtain ⟨requests, hrequests, hgrant, rfl⟩ :=
    (run_flawless_iff hd disk out m m' report).1 ⟨hrun, hflawless⟩
  have hbag := bag_requests out hlike (hreordered.base_element hh hdistinct)
  rw [hrequests] at hbag
  obtain ⟨others, hothers, hsame⟩ := Option.map_eq_some_iff.1 hbag
  have hperm : requests.Perm others := (Multiset.coe_eq_coe.1 hsame).symm
  obtain ⟨m'', hgrant', hread, hdirectories, hknown⟩ :=
    Memory.exists_grant_of_perm hgrant hperm hnodup
  have hd' : directory? (w.withSnapshot s).options = none := hd
  obtain ⟨hrun', hflawless'⟩ := (run_flawless_iff hd' disk out m m'' _).2
    ⟨others, hothers, hgrant', rfl⟩
  exact ⟨_, m'', hrun', hflawless', hread, fun _ => hdirectories.mem_iff, fun _ => hknown.mem_iff,
    ((Request.perm_writes hperm).map _).symm, (Request.perm_makes hperm).symm⟩

def yardParts (owned : List Element) : Element :=
  .node ⟨.text "q", .text "parts", .text ""⟩ .package owned

def yardShop (owned : List Element) : Element :=
  .node ⟨.text "s", .text "shop", .text ""⟩ .package owned

def yardOf (owned : List Element) : Snapshot where
  root := .node ⟨.text "p", .text "project", .text ""⟩ .package [yardShop owned]
  edges := [⟨.text "c", .text "b", .generalization⟩]
  base := ⟨[0], yardShop owned⟩

def yard : Workshop where
  snapshot := yardOf [yardParts [sampleClass "b" "bolt", sampleClass "n" "nut"],
    sampleClass "c" "cart"]
  options := {}

def yardTurned : Snapshot :=
  yardOf [sampleClass "c" "cart", yardParts [sampleClass "n" "nut", sampleClass "b" "bolt"]]

theorem reordered_yard : yard.snapshot.Reordered yardTurned := by
  have hparts : (yardParts [sampleClass "b" "bolt", sampleClass "n" "nut"]).Reordered
      (yardParts [sampleClass "n" "nut", sampleClass "b" "bolt"]) :=
    .of_perm _ _ (.cons (.refl _) (.cons (.refl _) .nil)) (.swap _ _ _)
  have hshop : yard.snapshot.base.element.Reordered yardTurned.base.element :=
    .of_perm _ _ (.cons hparts (.cons (.refl _) .nil)) (.swap _ _ _)
  have hbase (s : Snapshot) (owned : List Element) (hs : s = yardOf owned) :
      ⟨s.base, some (Snapshot.rootSpot s.root)⟩ ∈ s.index := by
    subst hs
    exact Snapshot.mem_index_of_owned (Snapshot.rootEntry_mem_index _)
      (Entry.mem_owned.2 ⟨List.mem_cons_self, rfl⟩)
  exact ⟨.of_perm _ _ (.cons hshop .nil) (.refl _), rfl, _, hbase _ _ rfl, _, hbase _ _ rfl,
    rfl, rfl, rfl⟩

theorem order_of_siblings_yard : ∃ report report' m' m'',
    (yard.run (.ofString "out")).run (Sink.ofMemory .fresh) {} = (.ok report, m') ∧
    ((yard.withSnapshot yardTurned).run (.ofString "out")).run (Sink.ofMemory .fresh) {} =
      (.ok report', m'') ∧
    report.generated.map Path.text = ["out/shop/__init__.dart", "out/shop/parts/__init__.dart",
      "out/shop/parts/Bolt.dart", "out/shop/parts/Nut.dart", "out/shop/Cart.dart"] ∧
    report'.failures = [] ∧ (∀ p, m''.read? p = m'.read? p) ∧
    ∀ p, p ∈ m''.directories ↔ p ∈ m'.directories := by
  let ended := (yard.run (.ofString "out")).run (Sink.ofMemory .fresh) {}
  have hh : yard.snapshot.Hashable := by
    unfold Snapshot.Hashable
    decide +kernel
  have hdistinct : yard.snapshot.Distinct := by
    unfold Snapshot.Distinct
    decide +kernel
  have hreport : (ended.1.toOption.map fun r =>
      (r.generated.map Path.text, r.failures.isEmpty, decide r.generated.Nodup)) =
      some (["out/shop/__init__.dart", "out/shop/parts/__init__.dart", "out/shop/parts/Bolt.dart",
        "out/shop/parts/Nut.dart", "out/shop/Cart.dart"], true, true) := by
    decide +kernel
  cases hr : ended with
  | mk result m' =>
    rw [hr] at hreport
    rcases result with t | report
    · cases hreport
    · obtain ⟨hgenerated, hrest⟩ := Prod.mk.inj (Option.some.inj hreport)
      obtain ⟨hflawless, hnodup⟩ := Prod.mk.inj hrest
      obtain ⟨report', m'', hrun', hflawless', hread, hdirectories, -⟩ :=
        order_of_siblings yard (.ofString "out") .fresh reordered_yard hh hdistinct rfl hr
          (List.isEmpty_iff.1 hflawless) (of_decide_eq_true hnodup)
      exact ⟨report, report', m', m'', hr, hrun', hgenerated, hflawless', hread, hdirectories⟩

end UmlPress.Emit.Workshop
