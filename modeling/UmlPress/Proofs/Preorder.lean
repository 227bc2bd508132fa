import Mathlib.Data.List.Basic
import UmlPress.Model.Snapshot

/-!
# Walks in document order

A walk with a stack meets each element before everything below it, and that
before the element's later siblings. The same order is given by recursion on
the tree, where the places that a walk is closed at can be left out.
-/
namespace UmlPress

namespace Spot

/-- Whether a place is on the way to another one. -/
def isAbove (s t : Spot) : Bool := s.steps.isSuffixOf t.steps && s.steps ≠ t.steps

theorem isAbove_iff {s t : Spot} :
    s.isAbove t = true ↔ s.steps <:+ t.steps ∧ s.steps ≠ t.steps := by
  simp [isAbove, List.isSuffixOf_iff_suffix]

theorem mem_spotsBelow {steps : List Nat} {number : Nat} {es : List Element} {s : Spot}
    (h : s ∈ spotsBelow steps number es) :
    s.element ∈ es ∧ ∃ k, number ≤ k ∧ s.steps = k :: steps := by
  induction es generalizing number with
  | nil => cases h
  | cons e r ih =>
    rcases List.mem_cons.1 h with rfl | h
    · exact ⟨List.mem_cons_self, number, Nat.le_refl _, rfl⟩
    · obtain ⟨he, k, hk, hs⟩ := ih h
      exact ⟨List.mem_cons_of_mem _ he, k, by omega, hs⟩

theorem pairwise_spotsBelow (steps : List Nat) (number : Nat) (es : List Element) :
    (spotsBelow steps number es).Pairwise fun s t =>
      ∃ i j, i < j ∧ s.steps = i :: steps ∧ t.steps = j :: steps := by
  induction es generalizing number with
  | nil => exact .nil
  | cons e r ih =>
    refine .cons ?_ (ih (number + 1))
    intro t ht
    obtain ⟨-, k, hk, hs⟩ := mem_spotsBelow ht
    exact ⟨number, k, hk, rfl, hs⟩

theorem steps_of_mem_owned {s c : Spot} (h : c ∈ s.owned) : ∃ k, c.steps = k :: s.steps := by
  obtain ⟨-, k, -, hk⟩ := mem_spotsBelow h
  exact ⟨k, hk⟩

theorem owned_of_mem_children {s c : Spot} (h : c ∈ s.children) : c ∈ s.owned := by
  unfold children Element.children at h
  split at h
  · exact h
  · cases h

/-- What holds of a spot if it holds of all that is owned there holds of every spot. -/
@[elab_as_elim]
theorem inductionOn {P : Spot → Prop} (step : ∀ s, (∀ c ∈ s.owned, P c) → P s) (s : Spot) : P s := by
  obtain ⟨steps, e⟩ := s
  induction e generalizing steps with
  | node facts shape owned ih =>
    refine step _ fun c hc => ?_
    exact ih c.element (mem_spotsBelow hc).1 c.steps

end Spot

mutual

def preorderAt (isOpen : Spot → Bool) (steps : List Nat) : Element → List Spot
  | .node facts shape owned =>
    let spot : Spot := ⟨steps, .node facts shape owned⟩
    spot :: if isOpen spot then preorderOf isOpen steps 0 owned else []

def preorderOf (isOpen : Spot → Bool) (steps : List Nat) (number : Nat) :
    List Element → List Spot
  | [] => []
  | e :: r => preorderAt isOpen (number :: steps) e ++ preorderOf isOpen steps (number + 1) r

end

namespace Spot

def preorder (isOpen : Spot → Bool) (s : Spot) : List Spot := preorderAt isOpen s.steps s.element

variable {isOpen : Spot → Bool}

theorem preorderOf_eq (steps : List Nat) (number : Nat) (es : List Element) :
    preorderOf isOpen steps number es = (spotsBelow steps number es).flatMap (preorder isOpen) := by
  induction es generalizing number with
  | nil => rfl
  | cons e r ih =>
    rw [preorderOf, ih, spotsBelow, List.flatMap_cons]
    rfl

theorem preorder_eq (s : Spot) : s.preorder isOpen =
    s :: if isOpen s then s.owned.flatMap (preorder isOpen) else [] := by
  obtain ⟨steps, facts, shape, owned⟩ := s
  rw [preorder, preorderAt, preorderOf_eq]
  rfl

/-- What stands in a walk is its first spot or stands in the walk from one owned
there. -/
theorem mem_preorder_iff {s t : Spot} : t ∈ s.preorder isOpen ↔
    t = s ∨ isOpen s = true ∧ ∃ c ∈ s.owned, t ∈ c.preorder isOpen := by
  rw [preorder_eq, List.mem_cons]
  cases h : isOpen s <;> simp

theorem suffix_of_mem_preorder {s t : Spot} (h : t ∈ s.preorder isOpen) : s.steps <:+ t.steps := by
  induction s using Spot.inductionOn with
  | step s ih =>
    rcases mem_preorder_iff.1 h with rfl | ⟨-, c, hc, ht⟩
    · exact List.suffix_refl _
    · obtain ⟨k, hk⟩ := steps_of_mem_owned hc
      have hsuffix := ih c hc ht
      rw [hk] at hsuffix
      exact (List.suffix_cons k s.steps).trans hsuffix

/-- What is below a spot is further down than the spot. -/
theorem length_lt_of_mem_preorder {s c t : Spot} (hc : c ∈ s.owned) (ht : t ∈ c.preorder isOpen) :
    s.steps.length < t.steps.length := by
  obtain ⟨k, hk⟩ := steps_of_mem_owned hc
  have hlen := (suffix_of_mem_preorder ht).length_le
  rw [hk, List.length_cons] at hlen
  omega

theorem steps_ne_of_mem_preorder {s c t : Spot} (hc : c ∈ s.owned) (ht : t ∈ c.preorder isOpen) :
    s.steps ≠ t.steps := by
  intro heq
  have hlen := length_lt_of_mem_preorder hc ht
  rw [heq] at hlen
  exact Nat.lt_irrefl _ hlen

/-- The walks from two siblings have no place in common. -/
theorem steps_ne_of_siblings {s c d t u : Spot} (hc : c ∈ s.owned) (hd : d ∈ s.owned)
    (hne : c.steps ≠ d.steps) (ht : t ∈ c.preorder isOpen) (hu : u ∈ d.preorder isOpen) :
    t.steps ≠ u.steps := by
  intro heq
  have htc := suffix_of_mem_preorder ht
  have hud := suffix_of_mem_preorder hu
  rw [← heq] at hud
  obtain ⟨k, hk⟩ := steps_of_mem_owned hc
  obtain ⟨l, hl⟩ := steps_of_mem_owned hd
  have hlen : c.steps.length = d.steps.length := by rw [hk, hl]; rfl
  exact hne ((List.suffix_of_suffix_length_le htc hud (Nat.le_of_eq hlen)).eq_of_length hlen)

/-- No place is met twice. -/
theorem nodup_preorder (s : Spot) : ((s.preorder isOpen).map (·.steps)).Nodup := by
  induction s using Spot.inductionOn with
  | step s ih =>
    rw [preorder_eq, List.map_cons, List.nodup_cons]
    cases hc : isOpen s with
    | false => simp
    | true =>
      rw [if_pos rfl]
      constructor
      · intro h
        obtain ⟨t, ht, heq⟩ := List.mem_map.1 h
        obtain ⟨c, hc, ht⟩ := List.mem_flatMap.1 ht
        exact steps_ne_of_mem_preorder hc ht heq.symm
      · rw [List.Nodup, List.pairwise_map, List.pairwise_flatMap]
        constructor
        · intro c hc
          exact List.pairwise_map.1 (ih c hc)
        · refine (pairwise_spotsBelow _ _ _).imp_of_mem ?_
          rintro c d hc hd ⟨i, j, hij, hi, hj⟩ t ht u hu
          refine steps_ne_of_siblings hc hd ?_ ht hu
          rw [hi, hj]
          exact fun h => Nat.ne_of_lt hij (List.cons.inj h).1

/-- To close a walk at some places is to leave out what stands below them. -/
theorem preorder_eq_filter {closed : List Nat → Bool} {p : Spot → Bool} (s : Spot)
    (hp : ∀ t ∈ s.preorder isOpen, p t = true ↔
      ∀ u, s.steps <:+ u → u <:+ t.steps → u ≠ t.steps → closed u = false) :
    s.preorder (fun t => isOpen t && !closed t.steps) = (s.preorder isOpen).filter p := by
  induction s using Spot.inductionOn with
  | step s ih =>
    have hs : p s = true := by
      rw [hp s (mem_preorder_iff.2 (.inl rfl))]
      intro u hsu hus hne
      exact absurd (hus.eq_of_length_le hsu.length_le) hne
    rw [@preorder_eq isOpen] at hp ⊢
    rw [preorder_eq, List.filter_cons_of_pos hs]
    congr 1
    cases ho : isOpen s with
    | false => rfl
    | true =>
      rw [ho, if_pos rfl] at hp
      cases hc : closed s.steps with
      | true =>
        refine (List.filter_eq_nil_iff.2 ?_).symm
        intro t ht hpt
        obtain ⟨c, hcs, htc⟩ := List.mem_flatMap.1 ht
        have hne : s.steps ≠ t.steps := steps_ne_of_mem_preorder hcs htc
        obtain ⟨k, hk⟩ := steps_of_mem_owned hcs
        have hsuffix := suffix_of_mem_preorder htc
        rw [hk] at hsuffix
        have hclosed := (hp t (List.mem_cons_of_mem _ ht)).1 hpt s.steps (List.suffix_refl _)
          ((List.suffix_cons k _).trans hsuffix) hne
        rw [hc] at hclosed
        cases hclosed
      | false =>
        simp only [Bool.not_false, Bool.and_true, if_true, List.filter_flatMap]
        refine List.flatMap_congr fun c hcs => ?_
        obtain ⟨k, hk⟩ := steps_of_mem_owned hcs
        refine ih c hcs fun t ht => ?_
        rw [hp t (List.mem_cons_of_mem _ (List.mem_flatMap.2 ⟨c, hcs, ht⟩))]
        have hct := suffix_of_mem_preorder ht
        constructor
        · intro h u hcu
          rw [hk] at hcu
          exact h u ((List.suffix_cons k _).trans hcu)
        · intro h u hsu hut hne
          by_cases hus : u.length ≤ s.steps.length
          · rw [← hsu.eq_of_length_le hus]
            exact hc
          · refine h u (List.suffix_of_suffix_length_le hct hut ?_) hut hne
            rw [hk, List.length_cons]
            omega

def walkOf (s : Spot) : List Spot := s.preorder fun t => t.element.isPackage

def walkUnless (closed : List Nat → Bool) (s : Spot) : List Spot :=
  s.preorder fun t => t.element.isPackage && !closed t.steps

theorem walkOf_eq (s : Spot) : s.walkOf = s :: s.children.flatMap walkOf := by
  rw [walkOf, preorder_eq, children, Element.children]
  cases s.element.isPackage <;> rfl

theorem walkUnless_eq (closed : List Nat → Bool) (s : Spot) : s.walkUnless closed =
    s :: if closed s.steps then [] else s.children.flatMap (walkUnless closed) := by
  rw [walkUnless, preorder_eq, children, Element.children]
  cases s.element.isPackage <;> cases closed s.steps <;> rfl

theorem walkUnless_eq_filter {closed : List Nat → Bool} {p : Spot → Bool} (s : Spot)
    (hp : ∀ t ∈ s.walkOf, p t = true ↔
      ∀ u, s.steps <:+ u → u <:+ t.steps → u ≠ t.steps → closed u = false) :
    s.walkUnless closed = s.walkOf.filter p := preorder_eq_filter s hp

end Spot

/-- A walk with a stack goes through the walks of its spots one after the other. -/
theorem walkFrom_eq (stack : List Spot) : walkFrom stack = stack.flatMap Spot.walkOf := by
  induction stack using walkFrom.induct with
  | case1 => rw [walkFrom]; rfl
  | case2 s stack ih =>
    rw [walkFrom, ih, List.flatMap_append, List.flatMap_cons, Spot.walkOf_eq]
    rfl

end UmlPress
