import Mathlib.Data.List.Induction
import UmlPress.Proofs.Account
import UmlPress.Proofs.Owners
import UmlPress.Proofs.Pages
import UmlPress.Proofs.Whereabouts

/-!
# Paths down and paths up

A run hands a directory down from the base, and builds it from the names of the
packages on the way. The qualified path of an element goes up from the element,
by ids, until it comes to the base. With ids that differ both go the same way.
-/
namespace UmlPress

/-- The last step of a way is to a child. -/
theorem Spot.Leads.last {s t c : Spot} {way : List Spot} (h : s.Leads (way ++ [c]) t) :
    t = c ∧ ∃ p, s.Leads way p ∧ c ∈ p.children := by
  induction way generalizing s with
  | nil =>
    obtain _ | ⟨hc, hrest⟩ := h
    cases hrest
    exact ⟨rfl, s, .here s, hc⟩
  | cons d way ih =>
    obtain _ | ⟨hd, hrest⟩ := h
    obtain ⟨rfl, p, hp, hc⟩ := ih hrest
    exact ⟨rfl, p, .down hd hp, hc⟩

namespace Snapshot
variable {s : Snapshot} {b t : Spot} {way : List Spot} {stop : Spot → Bool}

theorem mem_index_of_child {p c : Spot} (hp : ∃ x ∈ s.index, x.spot = p) (hc : c ∈ p.children) :
    ⟨c, some p⟩ ∈ s.index := by
  obtain ⟨x, hx, rfl⟩ := hp
  exact mem_index_of_owned hx (Entry.mem_owned.2 ⟨Spot.owned_of_mem_children hc, rfl⟩)

/-- The spots of a way are in the index if its start is. -/
theorem mem_index_of_leads (hb : ∃ x ∈ s.index, x.spot = b) (h : b.Leads way t) :
    ∃ x ∈ s.index, x.spot = t := by
  induction h with
  | here => exact hb
  | down hc _ ih =>
    exact ih ⟨_, mem_index_of_child hb hc, rfl⟩

/-- The owners of a child are its owner and the owners of that. -/
theorem ownersUntil_child (hh : s.Hashable) (hd : s.Distinct) {p c : Spot}
    (hp : ∃ x ∈ s.index, x.spot = p) (hc : c ∈ p.children) (n : Nat) :
    s.ownersUntil stop (n + 1) c.element =
      if stop p then some [] else (s.ownersUntil stop n p.element).map (p.element :: ·) := by
  have hfind : s.holder? c.element.id = some ⟨c, some p⟩ :=
    holder?_of_mem hh hd (mem_index_of_child hp hc)
  rw [ownersUntil, ownerOf?_eq, hfind]
  rfl

/-- The owners of an element below the base, up to the base, stand on the way
from the base. -/
theorem ownersUntil_below (hh : s.Hashable) (hd : s.Distinct) (hb : ∃ x ∈ s.index, x.spot = b)
    (h : b.Leads way t) (hne : way ≠ []) {n : Nat} {owners : List Element}
    (ho : s.ownersUntil (fun o => o.steps = b.steps) n t.element = some owners) :
    owners = way.dropLast.reverse.map (·.element) := by
  induction way using List.reverseRecOn generalizing t n owners with
  | nil => exact absurd rfl hne
  | append_singleton way c ih =>
    obtain ⟨rfl, p, hp, hc⟩ := h.last
    rw [List.dropLast_concat]
    cases n with
    | zero => cases ho
    | succ n =>
      rw [ownersUntil_child hh hd (mem_index_of_leads hb hp) hc] at ho
      cases way using List.reverseRecOn with
      | nil =>
        cases hp
        simpa using ho.symm
      | append_singleton way d =>
        obtain ⟨rfl, q, hq, hpq⟩ := hp.last
        obtain ⟨k, hk⟩ := Spot.steps_of_mem_owned (Spot.owned_of_mem_children hpq)
        have hlen := hq.steps_suffix.length_le
        have hstop : p.steps ≠ b.steps := by
          intro heq
          rw [← heq, hk, List.length_cons] at hlen
          omega
        simp only [hstop, decide_false, Bool.false_eq_true, if_false, Option.map_eq_some_iff] at ho
        obtain ⟨rest, hrest, rfl⟩ := ho
        rw [ih hp (by simp) hrest, List.dropLast_concat]
        simp

/-- All owners of an element below the base are those on the way and those of
the base. -/
theorem ownersUntil_through (hh : s.Hashable) (hd : s.Distinct) (hb : ∃ x ∈ s.index, x.spot = b)
    (h : b.Leads way t) {n : Nat} {owners : List Element}
    (ho : s.ownersUntil (fun _ => false) n t.element = some owners) :
    ∃ m above, s.ownersUntil (fun _ => false) m b.element = some above ∧
      owners = (b :: way).dropLast.reverse.map (·.element) ++ above := by
  induction way using List.reverseRecOn generalizing t n owners with
  | nil =>
    cases h
    exact ⟨n, owners, ho, rfl⟩
  | append_singleton way c ih =>
    obtain ⟨rfl, p, hp, hc⟩ := h.last
    cases n with
    | zero => cases ho
    | succ n =>
      rw [ownersUntil_child hh hd (mem_index_of_leads hb hp) hc] at ho
      simp only [Bool.false_eq_true, if_false, Option.map_eq_some_iff] at ho
      obtain ⟨rest, hrest, rfl⟩ := ho
      obtain ⟨m, above, habove, rfl⟩ := ih hp hrest
      refine ⟨m, above, habove, ?_⟩
      have hsplit : b :: way = (b :: way).dropLast ++ [p] := by
        rw [← hp.getLast_eq, List.dropLast_append_getLast]
      rw [show b :: (way ++ [t]) = (b :: way) ++ [t] from rfl, List.dropLast_concat]
      nth_rewrite 2 [hsplit]
      simp

/-- The qualified path of an element below the base has the names on the way. -/
theorem qualifiedPath_of_leads (hh : s.Hashable) (hd : s.Distinct)
    (hb : ∃ x ∈ s.index, x.spot = s.base) (h : s.base.Leads way t) (hne : way ≠ []) :
    s.qualifiedPath t.element = .ok (way.map (·.element.name)) := by
  obtain ⟨owners, ho⟩ := exists_ownersWithin hd.ownersDiffer hh (fun o => o.steps = s.base.steps)
    t.element
  have hlast : way.getLast hne = t := by
    rw [← h.getLast_eq, List.getLast_cons hne]
  rw [qualifiedPath, ho]
  show Except.ok _ = Except.ok _
  rw [ownersUntil_below hh hd hb h hne (ownersWithin_eq_ok.1 ho)]
  conv_rhs => rw [← List.dropLast_append_getLast hne, hlast]
  simp [Function.comp_def]

/-- The display path of an element below the base goes on from that of the base. -/
theorem displayPath_of_leads (hh : s.Hashable) (hd : s.Distinct)
    (hb : ∃ x ∈ s.index, x.spot = b) (h : b.Leads way t) (hne : way ≠ [])
    {place : String} (hp : s.displayPath t.element = .ok place) :
    ∃ top names, s.displayPath b.element = .ok top ∧
      way.map (·.element.name) = names.map .text ∧ place = top ++ "/" ++ "/".intercalate names := by
  obtain ⟨owners, texts, ho, htexts, rfl⟩ := displayPath_eq_ok.1 hp
  obtain ⟨m, above, habove, rfl⟩ := ownersUntil_through hh hd hb h ho
  obtain ⟨owners, hbase⟩ := exists_ownersWithin hd.ownersDiffer hh (fun _ => false) b.element
  have hbase := ownersWithin_eq_ok.1 hbase
  cases ownersUntil_unique habove hbase
  have hsplit : b :: way = (b :: way).dropLast ++ [t] := by
    rw [← h.getLast_eq, List.dropLast_append_getLast]
  have hnames : (above.reverse.map Element.name ++ [b.element.name]) ++
      way.map (·.element.name) = texts.map .text := by
    have hway : (b :: way).map (·.element.name) =
        (b :: way).dropLast.map (·.element.name) ++ [t.element.name] := by
      conv_lhs => rw [hsplit, List.map_append, List.map_singleton]
    rw [← htexts, List.append_assoc, List.singleton_append]
    rw [List.map_cons] at hway
    rw [hway]
    simp [Function.comp_def]
  obtain ⟨front, back, rfl, hfront, hback⟩ := List.append_eq_map_iff.1 hnames
  refine ⟨_, back, displayPath_eq_ok.2 ⟨above, front, hbase, hfront.symm, rfl⟩, hback.symm, ?_⟩
  rw [String.intercalate_append_of_ne_nil]
  · rintro rfl
    simp at hfront
  · rintro rfl
    exact hne (List.map_eq_nil_iff.1 hback.symm)

/-- An inherited element is in the index, and its path is its qualified path. -/
theorem of_mem_targetsOf {e : Element} {edges : List Edge} {ts : List Target}
    (h : s.targetsOf e edges = .ok (.ok ts)) :
    ∀ t ∈ ts, (∃ x ∈ s.index, x.spot = t.spot) ∧ s.qualifiedPath t.spot.element = .ok t.path := by
  induction edges generalizing ts with
  | nil =>
    cases h
    simp
  | cons edge r ih =>
    rw [targetsOf] at h
    split at h
    · cases hfind : s.find edge.target with
      | error m =>
        rw [hfind] at h
        cases h
      | ok found =>
        rw [hfind] at h
        cases found with
        | none => cases h
        | some spot =>
          cases hpath : s.qualifiedPath spot.element with
          | error m => simp [hpath, bind, Except.bind] at h
          | ok path =>
            cases hrest : s.targetsOf e r with
            | error m => simp [hpath, hrest, bind, Except.bind] at h
            | ok rest =>
              cases rest with
              | error f => simp [hpath, hrest, bind, Except.bind, pure, Except.pure, Except.map] at h
              | ok us =>
                simp only [hpath, hrest, bind, Except.bind, pure, Except.pure, Except.map,
                  Except.ok.injEq] at h
                rw [← h, List.forall_mem_cons]
                exact ⟨⟨mem_index_of_find hfind, hpath⟩, ih hrest⟩
    · exact ih h

end Snapshot

namespace Emit.Workshop
variable {w : Workshop} {v : Visit}

/-- An emitted element has its marker or its file. -/
theorem ownPath_of_attests (ha : w.Attests v) (he : v.ending = .emitted)
    (ho : v.spot.element.isOther = false) : ∃ p, w.ownPath v.base v.spot.element = some p := by
  obtain ⟨supply, supply', calls, report, below, hy⟩ := ha.emitted he
  have h := (told_tour hy).isSome _ List.mem_cons_self
  rw [share?, ho] at h
  exact Option.isSome_iff_exists.1 (Option.isSome_map.symm.trans h)

/-- The inherited elements of an emitted class were found. -/
theorem targets_of_attests (ha : w.Attests v) (he : v.ending = .emitted)
    (hm : v.spot.element.members?.isSome = true) :
    ∃ ts, w.snapshot.targets v.spot.element = .ok (.ok ts) := by
  obtain ⟨supply, supply', calls, report, below, hy⟩ := ha.emitted he
  obtain ⟨⟨steps, facts, shape, owned⟩, base, ending⟩ := v
  cases shape with
  | classifier isInterface attributes operations =>
    obtain ⟨-, hy⟩ := yields_tour_leaf (by simp) hy
    rw [emit] at hy
    obtain ⟨found, -, -, ⟨t, -, -, ht⟩ | ⟨m, -, -, hm⟩ | ⟨text, name, answer, hpage, -⟩⟩ :=
      yields_emitFile hy
    · cases ht
    · cases hm
    · exact targets_of_page hpage
  | _ => cases hm

/-- The directory handed down to an element below the base is that of its
qualified path, its failure is told by the same path, and a class that was
emitted imports each inherited element by the directory that the element itself
was emitted to. -/
theorem paths_agree (w : Workshop) (out : Path) {σ : Type} (sink : Sink (StateM σ)) {st st' : σ}
    {r : Except Trouble Report} {visits : List Visit} (hh : w.snapshot.Hashable)
    (hd : w.snapshot.Distinct) (hb : ∃ x ∈ w.snapshot.index, x.spot = w.snapshot.base)
    (h : (w.runTour out).run sink st = ((r, visits), st')) :
    (w.run out).run sink st = (r, st') ∧
      ∀ v ∈ visits, v.spot.steps ≠ w.snapshot.base.steps → ∃ directory path,
        packagePath out w.snapshot.base.element.name = .ok directory ∧
        w.snapshot.qualifiedPath v.spot.element = .ok path ∧
        path.dropLast.foldlM packagePath directory = .ok v.base ∧
        (∀ f, v.ending = .failed f → ∃ top names,
          w.snapshot.displayPath w.snapshot.base.element = .ok top ∧
          path = names.map .text ∧ f.place = top ++ "/" ++ "/".intercalate names) ∧
        (v.ending = .emitted → v.spot.element.members?.isSome = true →
          ∃ targets, w.snapshot.targets v.spot.element = .ok (.ok targets) ∧
            ∀ t ∈ targets, ∀ u ∈ visits, u.spot = t.spot → u.ending = .emitted →
              u.spot.steps ≠ w.snapshot.base.steps →
              t.path.dropLast.foldlM packagePath directory = .ok u.base ∧
                (u.spot.element.isOther = false → ∃ p, w.ownPath u.base u.spot.element = some p ∧
                  ∀ report, r = .ok report → p ∈ report.generated)) := by
  obtain ⟨calls, hy⟩ := Plan.yields_of_run h
  have hsound := sound_runTour hy
  have hplace (v : Visit) (hv : v ∈ visits) (hne : v.spot.steps ≠ w.snapshot.base.steps) :
      ∃ way directory, way ≠ [] ∧ w.snapshot.base.Leads way v.spot ∧
        packagePath out w.snapshot.base.element.name = .ok directory ∧
        w.snapshot.qualifiedPath v.spot.element = .ok (way.map (·.element.name)) ∧
        (way.map (·.element.name)).dropLast.foldlM packagePath directory = .ok v.base := by
    obtain ⟨-, way, hway, hbase⟩ := hsound v hv
    cases way with
    | nil => exact absurd (congrArg Spot.steps hway.getLast_eq.symm) hne
    | cons c way =>
      rw [List.dropLast_cons_cons, List.map_cons, List.foldlM_cons] at hbase
      cases hp : packagePath out w.snapshot.base.element.name with
      | error t =>
        rw [hp] at hbase
        cases hbase
      | ok directory =>
        rw [hp] at hbase
        refine ⟨c :: way, directory, List.cons_ne_nil _ _, hway, rfl,
          Snapshot.qualifiedPath_of_leads hh hd hb hway (List.cons_ne_nil _ _), ?_⟩
        rw [← List.map_dropLast]
        exact hbase
  refine ⟨by rw [← map_runTour, Plan.run_map, h], fun v hv hne => ?_⟩
  obtain ⟨way, directory, hwne, hway, hdir, hpath, hbase⟩ := hplace v hv hne
  refine ⟨directory, _, hdir, hpath, hbase, fun f hf => ?_, fun he hm => ?_⟩
  · exact Snapshot.displayPath_of_leads hh hd hb hway hwne ((hsound v hv).1.failed f hf)
  · obtain ⟨targets, htargets⟩ := targets_of_attests (hsound v hv).1 he hm
    refine ⟨targets, htargets, fun t ht u hu hspot hemitted hune => ?_⟩
    obtain ⟨way', directory', -, -, hdir', hpath', hbase'⟩ := hplace u hu hune
    cases hdir.symm.trans hdir'
    have htarget := (Snapshot.of_mem_targetsOf htargets t ht).2
    rw [← hspot, hpath'] at htarget
    rw [← Except.ok.inj htarget]
    refine ⟨hbase', fun ho => ?_⟩
    obtain ⟨p, hp⟩ := ownPath_of_attests (hsound u hu).1 hemitted ho
    refine ⟨p, hp, ?_⟩
    rintro report rfl
    rw [(accounted_runTour hy).generated, List.mem_filterMap]
    exact ⟨u, hu, by simp [path?, share?, hemitted, hp]⟩

/-- The sample: a class in the inner package, whose directory is that of the path
that another class imports it by. -/
theorem paths_agree_sample : ∃ visits report m',
    (sample.runTour (.ofString "out")).run (Sink.ofMemory {}) {} = ((.ok report, visits), m') ∧
      visits.map (fun v => (v.spot.steps, v.base.text)) = [([0], "out"), ([0, 0], "out/shop"),
        ([0, 0, 0], "out/shop/parts"), ([1, 0], "out/shop"), ([2, 0], "out/shop"),
        ([3, 0], "out/shop"), ([4, 0], "out/shop")] ∧
      ∀ v ∈ visits, v.spot.steps ≠ [0] → ∃ path,
        sample.snapshot.qualifiedPath v.spot.element = .ok path ∧
        path.dropLast.foldlM packagePath (.ofString "out/shop") = .ok v.base := by
  let ended := (sample.runTour (.ofString "out")).run (Sink.ofMemory {}) {}
  have hok : ended.1.1.toOption.isSome = true := by decide +kernel
  have hvisits : ended.1.2.map (fun v => (v.spot.steps, v.base.text)) = [([0], "out"),
      ([0, 0], "out/shop"), ([0, 0, 0], "out/shop/parts"), ([1, 0], "out/shop"),
      ([2, 0], "out/shop"), ([3, 0], "out/shop"), ([4, 0], "out/shop")] := by decide +kernel
  have hh : sample.snapshot.Hashable := by
    unfold Snapshot.Hashable
    decide +kernel
  have hd : sample.snapshot.Distinct := by
    unfold Snapshot.Distinct
    decide +kernel
  have hb : ∃ x ∈ sample.snapshot.index, x.spot = sample.snapshot.base :=
    ⟨_, Snapshot.mem_index_of_child ⟨_, Snapshot.rootEntry_mem_index _, rfl⟩ List.mem_cons_self, rfl⟩
  cases hr : ended with
  | mk result m' =>
    obtain ⟨r, visits⟩ := result
    rw [hr] at hok hvisits
    rcases r with t | report
    · cases hok
    · refine ⟨visits, report, m', hr, hvisits, fun v hv hne => ?_⟩
      obtain ⟨directory, path, hdir, hpath, hbase, -⟩ :=
        (paths_agree sample _ _ hh hd hb hr).2 v hv hne
      cases hdir
      exact ⟨path, hpath, hbase⟩

end Emit.Workshop
end UmlPress
