import Mathlib.Data.List.Chain
import UmlPress.Proofs.Identity

/-!
# Lines of owners

The places above an element, as they are met in a traversal, are its owners from the root
down. With ids that differ the look-ups by id go up the same line, whatever the base is, and
the base only tells how much of the line a qualified path names.
-/
namespace UmlPress

namespace Spot
variable {s c o t : Spot}

def above (s t : Spot) : List Spot := s.tree.filter (·.isAbove t)

def line (s t : Spot) : List Spot := s.above t ++ [t]

theorem mem_tree_of_owned (ho : o ∈ s.tree) (hc : c ∈ o.owned) : c ∈ s.tree := by
  induction s using Spot.inductionOn with
  | step s ih =>
    refine mem_preorder_iff.2 (.inr ⟨rfl, ?_⟩)
    rcases mem_preorder_iff.1 ho with rfl | ⟨-, d, hd, hod⟩
    · exact ⟨c, hc, mem_preorder_iff.2 (.inl rfl)⟩
    · exact ⟨d, hd, ih d hd hod⟩

theorem isAbove_of_mem_tree (hc : c ∈ s.owned) (ht : t ∈ c.tree) : s.isAbove t = true := by
  refine isAbove_iff.2 ⟨?_, steps_ne_of_mem_preorder hc ht⟩
  exact suffix_of_mem_preorder (mem_preorder_iff.2 (.inr ⟨rfl, c, hc, ht⟩))

theorem above_self (s : Spot) : s.above s = [] := by
  refine List.filter_eq_nil_iff.2 fun o ho habove => ?_
  obtain ⟨hsuffix, hne⟩ := isAbove_iff.1 habove
  exact hne (hsuffix.eq_of_length_le (suffix_of_mem_preorder ho).length_le)

/-- Above a place in one branch nothing of another branch stands. -/
theorem above_of_sibling {d : Spot} (hc : c ∈ s.owned) (hd : d ∈ s.owned)
    (hne : d.steps ≠ c.steps) (ht : t ∈ c.tree) : d.above t = [] := by
  refine List.filter_eq_nil_iff.2 fun o ho habove => hne ?_
  obtain ⟨k, hk⟩ := steps_of_mem_owned hc
  obtain ⟨l, hl⟩ := steps_of_mem_owned hd
  have hlength : d.steps.length = c.steps.length := by rw [hk, hl]; rfl
  have hdt := (suffix_of_mem_preorder ho).trans (isAbove_iff.1 habove).1
  have hct := suffix_of_mem_preorder ht
  exact (List.suffix_of_suffix_length_le hdt hct hlength.le).eq_of_length hlength

/-- The line to a place goes through the branch that it stands in. -/
theorem above_of_mem_tree (hc : c ∈ s.owned) (ht : t ∈ c.tree) :
    s.above t = s :: c.above t := by
  obtain ⟨earlier, later, hsplit⟩ := List.append_of_mem hc
  have hsiblings := pairwise_spotsBelow s.steps 0 s.element.owned
  change s.owned.Pairwise _ at hsiblings
  have hnil (ds : List Spot) (hds : ∀ d ∈ ds, d ∈ s.owned ∧ d.steps ≠ c.steps) :
      ds.flatMap (·.above t) = [] :=
    List.flatMap_eq_nil_iff.2 fun d hd => above_of_sibling hc (hds d hd).1 (hds d hd).2 ht
  have hdiffer {i j : Nat} (hij : i < j) : i :: s.steps ≠ j :: s.steps :=
    fun h => hij.ne (List.cons.inj h).1
  rw [hsplit, List.pairwise_append, List.pairwise_cons] at hsiblings
  obtain ⟨-, ⟨hlater, -⟩, hearlier⟩ := hsiblings
  have hbefore : earlier.flatMap (·.above t) = [] := hnil _ fun d hd => by
    obtain ⟨i, j, hij, hi, hj⟩ := hearlier d hd c List.mem_cons_self
    exact ⟨by simp [hsplit, hd], by rw [hi, hj]; exact hdiffer hij⟩
  have hbehind : later.flatMap (·.above t) = [] := hnil _ fun d hd => by
    obtain ⟨i, j, hij, hi, hj⟩ := hlater d hd
    exact ⟨by simp [hsplit, hd], by rw [hi, hj]; exact (hdiffer hij).symm⟩
  have howned : s.owned.flatMap (·.above t) = c.above t := by
    rw [hsplit, List.flatMap_append, List.flatMap_cons, hbefore, hbehind, List.append_nil]
    rfl
  have hs := isAbove_of_mem_tree hc ht
  rw [← howned, above, tree_eq, List.filter_cons, if_pos hs, List.filter_flatMap]
  rfl

/-- Above something owned its owner comes last. -/
theorem above_of_owned (ho : o ∈ s.tree) (hc : c ∈ o.owned) : s.above c = s.line o := by
  induction s using Spot.inductionOn with
  | step s ih =>
    rcases mem_preorder_iff.1 ho with rfl | ⟨-, d, hd, hod⟩
    · rw [above_of_mem_tree hc (mem_preorder_iff.2 (.inl rfl)), line, above_self, above_self]
      rfl
    · rw [above_of_mem_tree hd (mem_tree_of_owned hod hc), ih d hd hod, line, line,
        above_of_mem_tree hd hod]
      rfl

theorem line_of_mem_tree (hc : c ∈ s.owned) (ht : t ∈ c.tree) : s.line t = s :: c.line t := by
  rw [line, above_of_mem_tree hc ht]
  rfl

theorem head?_line (ht : t ∈ s.tree) : (s.line t).head? = some s := by
  rcases mem_preorder_iff.1 ht with rfl | ⟨-, c, hc, htc⟩
  · rw [line, above_self]
    rfl
  · rw [line_of_mem_tree hc htc]
    rfl

/-- On a line each place owns the next one. -/
theorem isChain_line (ht : t ∈ s.tree) : (s.line t).IsChain fun o c => c ∈ o.owned := by
  induction s using Spot.inductionOn with
  | step s ih =>
    rcases mem_preorder_iff.1 ht with rfl | ⟨-, c, hc, htc⟩
    · rw [line, above_self]
      exact .singleton _
    · rw [line_of_mem_tree hc htc, List.isChain_cons, head?_line htc]
      refine ⟨?_, ih c hc htc⟩
      rintro _ ⟨⟩
      exact hc

/-- On a line each place stands above all that follow. -/
theorem pairwise_line (ht : t ∈ s.tree) : (s.line t).Pairwise fun o p => o.isAbove p = true := by
  induction s using Spot.inductionOn with
  | step s ih =>
    rcases mem_preorder_iff.1 ht with rfl | ⟨-, c, hc, htc⟩
    · rw [line, above_self]
      exact List.pairwise_singleton _ _
    · rw [line_of_mem_tree hc htc, List.pairwise_cons]
      refine ⟨fun p hp => ?_, ih c hc htc⟩
      rcases List.mem_append.1 hp with hp | hp
      · exact isAbove_of_mem_tree hc (List.mem_filter.1 hp).1
      · cases List.mem_singleton.1 hp
        exact isAbove_of_mem_tree hc htc

theorem not_isAbove_of_isAbove (h : o.isAbove c = true) : c.isAbove o = false := by
  by_contra hback
  rw [Bool.not_eq_false] at hback
  obtain ⟨hoc, hne⟩ := isAbove_iff.1 h
  have hco := (isAbove_iff.1 hback).1
  exact hne (hoc.eq_of_length_le hco.length_le)

/-- Below a place of a line is what follows it there. -/
theorem filter_isAbove_line {earlier later : List Spot} (ht : t ∈ s.tree)
    (hsplit : s.line t = earlier ++ o :: later) :
    (s.line t).filter (o.isAbove ·) = later := by
  have hpairs := pairwise_line ht
  rw [hsplit, List.pairwise_append, List.pairwise_cons] at hpairs
  obtain ⟨-, ⟨hlater, -⟩, hearlier⟩ := hpairs
  have hbefore : earlier.filter (o.isAbove ·) = [] := by
    apply List.filter_eq_nil_iff.2
    intro p hp
    have hpo := hearlier p hp o List.mem_cons_self
    simp [not_isAbove_of_isAbove hpo]
  have hself : o.isAbove o = false := by simp [isAbove]
  rw [hsplit, List.filter_append, hbefore, List.filter_cons, hself, List.filter_eq_self.2 hlater]
  rfl

end Spot

namespace Snapshot
variable {s : Snapshot} {x b : Entry} {chain : List Spot}

theorem mem_tree_of_mem_index (hx : x ∈ s.index) : x.spot ∈ (rootSpot s.root).tree :=
  s.index_spots ▸ List.mem_map_of_mem hx

/-- The owners that are looked up are the places above. -/
theorem Follows.reverse_eq_above (hh : s.Hashable) (hd : s.Distinct) (hx : x ∈ s.index)
    (h : s.Follows x.spot.element chain) : chain.reverse = (rootSpot s.root).above x.spot := by
  induction chain generalizing x with
  | nil =>
    rcases owner_of_mem_index hx with rfl | ⟨y, hy, howned⟩
    · exact (Spot.above_self _).symm
    · cases h with
      | done hnone => simp [ownerOf?_of_mem hh hd hx, (Entry.mem_owned.1 howned).2] at hnone
  | cons o chain ih =>
    cases h with
    | step hsome hrest =>
      rw [ownerOf?_of_mem hh hd hx] at hsome
      obtain ⟨z, hz, rfl, howned⟩ := exists_owner hx hsome
      rw [List.reverse_cons, ih hz hrest,
        Spot.above_of_owned (mem_tree_of_mem_index hz) howned]
      rfl

/-- What is met on the way up before a base is what stands below the base, or all of it if the
base is not met. -/
theorem takeWhile_line (hx : x ∈ s.index) (hb : b ∈ s.index)
    (hchain : chain.reverse = (rootSpot s.root).above x.spot) :
    (chain.takeWhile fun o => o.steps ≠ b.spot.steps).reverse ++ [x.spot] =
      if b.spot.isAbove x.spot then ((rootSpot s.root).line x.spot).filter (b.spot.isAbove ·)
      else (rootSpot s.root).line x.spot := by
  have hline : (rootSpot s.root).line x.spot = chain.reverse ++ [x.spot] := by
    rw [hchain, Spot.line]
  by_cases habove : b.spot.isAbove x.spot = true
  · have hmem : b.spot ∈ chain := by
      rw [← List.mem_reverse, hchain]
      exact List.mem_filter.2 ⟨mem_tree_of_mem_index hb, habove⟩
    obtain ⟨nearer, farther, rfl⟩ := List.append_of_mem hmem
    have hsplit : (rootSpot s.root).line x.spot =
        farther.reverse ++ b.spot :: (nearer.reverse ++ [x.spot]) := by
      rw [hline]
      simp
    have hbelow := Spot.filter_isAbove_line (mem_tree_of_mem_index hx) hsplit
    have hnearer : ∀ o ∈ nearer, decide (o.steps ≠ b.spot.steps) = true := by
      intro o ho
      have hbo : o ∈ ((rootSpot s.root).line x.spot).filter (b.spot.isAbove ·) := by
        rw [hbelow]
        simp [ho]
      have hne := (Spot.isAbove_iff.1 (List.mem_filter.1 hbo).2).2
      exact decide_eq_true hne.symm
    rw [if_pos habove, hbelow, List.takeWhile_append_of_pos hnearer, List.takeWhile_cons]
    simp
  · have hall : ∀ o ∈ chain, decide (o.steps ≠ b.spot.steps) = true := by
      intro o ho
      rw [← List.mem_reverse, hchain] at ho
      obtain ⟨htree, hox⟩ := List.mem_filter.1 ho
      apply decide_eq_true
      intro heq
      apply habove
      rw [← hox, Spot.isAbove, Spot.isAbove, heq]
    rw [if_neg habove, List.takeWhile_eq_self_iff.2 hall, hline]

theorem ownersUntil_withBase (base : Spot) (stop : Spot → Bool) (n : Nat) (e : Element) :
    (s.withBase base).ownersUntil stop n e = s.ownersUntil stop n e := by
  induction n generalizing e with
  | zero => rfl
  | succ n ih =>
    have howner : (s.withBase base).ownerOf? e = s.ownerOf? e := rfl
    rw [ownersUntil, ownersUntil, howner]
    simp only [ih]

theorem ancestors_withBase (base : Spot) : (s.withBase base).ancestors = s.ancestors := by
  funext e
  have hindex : (s.withBase base).index = s.index := rfl
  unfold ancestors ownersWithin
  rw [ownersUntil_withBase, hindex]

theorem displayPath_withBase (base : Spot) : (s.withBase base).displayPath = s.displayPath := by
  funext e
  unfold displayPath
  rw [ancestors_withBase]

/-- The owners of an element come to an end, and they are the places above it. -/
theorem exists_follows_above (hh : s.Hashable) (hd : s.Distinct) (hx : x ∈ s.index) :
    ∃ chain, s.Follows x.spot.element chain ∧ chain.length ≤ s.index.length ∧
      chain.reverse = (rootSpot s.root).above x.spot := by
  obtain ⟨chain, hchain, hlength⟩ := exists_follows hh hd.ownersDiffer x.spot.element
  exact ⟨chain, hchain, hlength, hchain.reverse_eq_above hh hd hx⟩

theorem ownerOf?_eq_getLast? (hh : s.Hashable) (hd : s.Distinct) (hx : x ∈ s.index) :
    s.ownerOf? x.spot.element = ((rootSpot s.root).above x.spot).getLast? := by
  obtain ⟨chain, hchain, -, habove⟩ := exists_follows_above hh hd hx
  rw [← habove, List.getLast?_reverse]
  cases hchain with
  | done hnone => exact hnone
  | step hsome _ => exact hsome

theorem ancestors_eq_above (hh : s.Hashable) (hd : s.Distinct) (hx : x ∈ s.index) :
    s.ancestors x.spot.element = .ok (((rootSpot s.root).above x.spot).map (·.element)) := by
  obtain ⟨chain, hchain, hlength, habove⟩ := exists_follows_above hh hd hx
  rw [ancestors_of_follows hchain hlength, habove]

theorem displayPath_eq_line (hh : s.Hashable) (hd : s.Distinct) (hx : x ∈ s.index)
    {place : String} : s.displayPath x.spot.element = .ok place ↔ ∃ texts,
      ((rootSpot s.root).line x.spot).map (·.element.name) = texts.map .text ∧
        place = "/".intercalate texts := by
  obtain ⟨chain, hchain, hlength, habove⟩ := exists_follows_above hh hd hx
  have hnames : chain.reverse.map (·.element.name) ++ [x.spot.element.name] =
      ((rootSpot s.root).line x.spot).map (·.element.name) := by
    rw [habove, Spot.line, List.map_append]
    rfl
  rw [displayPath_of_follows hchain hlength, hnames]
  constructor
  · intro h
    obtain ⟨texts, htexts, rfl⟩ := map_eq_ok.1 h
    exact ⟨texts, eq_of_textsFrom htexts, rfl⟩
  · rintro ⟨texts, htexts, rfl⟩
    rw [htexts, textsFrom_map_text]
    rfl

/-- A qualified path names the line below the base, or all of it if the base is not above. -/
theorem qualifiedPath_eq_line (hh : s.Hashable) (hd : s.Distinct) (hx : x ∈ s.index)
    (hb : b ∈ s.index) : (s.withBase b.spot).qualifiedPath x.spot.element = .ok
      ((if b.spot.isAbove x.spot then ((rootSpot s.root).line x.spot).filter (b.spot.isAbove ·)
        else (rootSpot s.root).line x.spot).map (·.element.name)) := by
  obtain ⟨chain, hchain, hlength, habove⟩ := exists_follows_above hh hd hx
  rw [qualifiedPath_of_follows (hchain.withBase b.spot) hlength, ← takeWhile_line hx hb habove,
    List.map_append]
  rfl

/-- What is asked about owners is answered with the line from the root down to an element: each
on it owns the next one. A base changes only what a qualified path names of the line. -/
theorem line_answers_questions (hh : s.Hashable) (hd : s.Distinct) (hx : x ∈ s.index) :
    let root := rootSpot s.root
    (root.line x.spot).head? = some root ∧
    (root.line x.spot).IsChain (fun o c => c ∈ o.owned) ∧
    s.ownerOf? x.spot.element = (root.above x.spot).getLast? ∧
    s.ancestors x.spot.element = .ok ((root.above x.spot).map (·.element)) ∧
    (∀ place, s.displayPath x.spot.element = .ok place ↔ ∃ texts,
      (root.line x.spot).map (·.element.name) = texts.map .text ∧
        place = "/".intercalate texts) ∧
    ∀ b ∈ s.index,
      (s.withBase b.spot).qualifiedPath x.spot.element = .ok
        ((if b.spot.isAbove x.spot then (root.line x.spot).filter (b.spot.isAbove ·)
          else root.line x.spot).map (·.element.name)) ∧
      (s.withBase b.spot).ownerOf? = s.ownerOf? ∧
      (s.withBase b.spot).ancestors = s.ancestors ∧
      (s.withBase b.spot).displayPath = s.displayPath := by
  intro root
  have htree := mem_tree_of_mem_index hx
  exact ⟨Spot.head?_line htree, Spot.isChain_line htree, ownerOf?_eq_getLast? hh hd hx,
    ancestors_eq_above hh hd hx, fun _ => displayPath_eq_line hh hd hx,
    fun b hb => ⟨qualifiedPath_eq_line hh hd hx hb, rfl, ancestors_withBase b.spot,
      displayPath_withBase b.spot⟩⟩

/-! Two packages, the second one with a class and a class within that. -/

def leaf : Element := .node ⟨.text "l", .text "leaf", .text ""⟩ (.classifier false [] []) []

def twig : Element := .node ⟨.text "t", .text "twig", .text ""⟩ (.classifier false [] []) [leaf]

def stump : Element := .node ⟨.text "s", .text "stump", .text ""⟩ .package []

def bough : Element := .node ⟨.text "b", .text "bough", .text ""⟩ .package [twig]

def grove : Snapshot :=
  let root : Element := .node ⟨.text "g", .text "grove", .text ""⟩ .package [stump, bough]
  ⟨root, [], rootSpot root⟩

theorem index_grove : grove.index = [⟨⟨[], grove.root⟩, none⟩,
    ⟨⟨[0], stump⟩, some ⟨[], grove.root⟩⟩,
    ⟨⟨[1], bough⟩, some ⟨[], grove.root⟩⟩, ⟨⟨[0, 1], twig⟩, some ⟨[1], bough⟩⟩,
    ⟨⟨[0, 0, 1], leaf⟩, some ⟨[0, 1], twig⟩⟩] := by
  simp [index, rootEntry, rootSpot, entriesFrom, Entry.owned, Spot.owned, spotsBelow, grove, stump,
    bough, twig, leaf, Element.owned]

theorem line_answers_questions_grove :
    grove.displayPath leaf = .ok "grove/bough/twig/leaf" ∧
    (grove.withBase ⟨[1], bough⟩).qualifiedPath leaf = .ok [.text "twig", .text "leaf"] ∧
    (grove.withBase ⟨[0], stump⟩).qualifiedPath leaf =
      .ok [.text "grove", .text "bough", .text "twig", .text "leaf"] := by
  have hh : grove.Hashable := by
    unfold Hashable
    rw [index_grove]
    decide
  have hd : grove.Distinct := by
    unfold Distinct
    rw [index_grove]
    decide
  have hx : ⟨⟨[0, 0, 1], leaf⟩, some ⟨[0, 1], twig⟩⟩ ∈ grove.index := by simp [index_grove]
  obtain ⟨-, -, -, -, hdisplay, hbase⟩ := line_answers_questions hh hd hx
  refine ⟨(hdisplay _).2 ⟨["grove", "bough", "twig", "leaf"], rfl, by decide⟩, ?_, ?_⟩
  · exact (hbase ⟨⟨[1], bough⟩, some ⟨[], grove.root⟩⟩ (by simp [index_grove])).1
  · exact (hbase ⟨⟨[0], stump⟩, some ⟨[], grove.root⟩⟩ (by simp [index_grove])).1

end Snapshot
end UmlPress
