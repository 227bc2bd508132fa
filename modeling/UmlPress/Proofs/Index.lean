import Mathlib.Data.List.Lex
import Mathlib.Data.List.Nodup
import Mathlib.Order.WithBot
import UmlPress.Proofs.Preorder

/-!
# The index

The index is the whole tree in document order, each element with its owner. An
id finds the last entry that has it, so an owner looked up by its id is the
owner itself or a later entry. A traversal leaves a later entry later, unless it
stands below the owner.
-/
namespace UmlPress

namespace Spot

def leaving (steps : List Nat) : List (WithTop Nat) := steps.reverse.map WithTop.some ++ [⊤]

theorem leaving_cons_lt (k : Nat) (steps : List Nat) : leaving (k :: steps) < leaving steps := by
  unfold leaving
  rw [List.reverse_cons, List.map_append, List.append_assoc]
  exact List.append_left_lt (List.Lex.rel (WithTop.coe_lt_top k))

theorem leaving_lt_of_siblings {s p q : List Nat} {i j : Nat} (hij : i < j)
    (hp : (i :: s) <:+ p) (hq : (j :: s) <:+ q) : leaving p < leaving q := by
  obtain ⟨p', rfl⟩ := hp
  obtain ⟨q', rfl⟩ := hq
  have hsplit (k : Nat) (r : List Nat) : leaving (r ++ k :: s) =
      s.reverse.map WithTop.some ++ (WithTop.some k :: leaving r) := by
    simp [leaving]
  rw [hsplit, hsplit]
  exact List.append_left_lt (List.Lex.rel (WithTop.coe_lt_coe.2 hij))

/-- What comes later in a walk stands below or is left later. -/
theorem pairwise_preorder {isOpen : Spot → Bool} (s : Spot) : (s.preorder isOpen).Pairwise
    fun t u => t.steps <:+ u.steps ∨ leaving t.steps < leaving u.steps := by
  induction s using Spot.inductionOn with
  | step s ih =>
    rw [preorder_eq, List.pairwise_cons]
    cases isOpen s with
    | false => simp
    | true =>
      rw [if_pos rfl]
      constructor
      · intro t ht
        obtain ⟨c, hc, ht⟩ := List.mem_flatMap.1 ht
        obtain ⟨k, hk⟩ := steps_of_mem_owned hc
        have hsuffix := suffix_of_mem_preorder ht
        rw [hk] at hsuffix
        exact .inl ((List.suffix_cons k _).trans hsuffix)
      · rw [List.pairwise_flatMap]
        refine ⟨ih, (pairwise_spotsBelow _ _ _).imp ?_⟩
        rintro c d ⟨i, j, hij, hi, hj⟩ t ht u hu
        have hsuffix := suffix_of_mem_preorder ht
        have hsuffix' := suffix_of_mem_preorder hu
        rw [hi] at hsuffix
        rw [hj] at hsuffix'
        exact .inr (leaving_lt_of_siblings hij hsuffix hsuffix')

def tree (s : Spot) : List Spot := s.preorder fun _ => true

theorem tree_eq (s : Spot) : s.tree = s :: s.owned.flatMap tree := by
  rw [tree, preorder_eq]
  rfl

end Spot

theorem entriesFrom_spots (stack : List Entry) :
    (entriesFrom stack).map (·.spot) = (stack.map (·.spot)).flatMap Spot.tree := by
  induction stack using entriesFrom.induct with
  | case1 => rw [entriesFrom]; rfl
  | case2 e stack ih =>
    rw [entriesFrom, List.map_cons, ih, List.map_append, e.map_spot_owned, List.flatMap_append,
      List.map_cons, List.flatMap_cons, Spot.tree_eq]
    rfl

theorem mem_entriesFrom_of_mem {stack : List Entry} {x : Entry} (h : x ∈ stack) :
    x ∈ entriesFrom stack := by
  induction stack using entriesFrom.induct with
  | case1 => cases h
  | case2 e stack ih =>
    rw [entriesFrom]
    rcases List.mem_cons.1 h with rfl | h
    · exact List.mem_cons_self
    · exact List.mem_cons_of_mem _ (ih (List.mem_append_right _ h))

theorem mem_entriesFrom_of_owned {stack : List Entry} {x y : Entry} (hx : x ∈ entriesFrom stack)
    (hy : y ∈ x.owned) : y ∈ entriesFrom stack := by
  induction stack using entriesFrom.induct with
  | case1 => simp [entriesFrom] at hx
  | case2 e stack ih =>
    rw [entriesFrom] at hx ⊢
    rcases List.mem_cons.1 hx with rfl | hx
    · exact List.mem_cons_of_mem _ (mem_entriesFrom_of_mem (List.mem_append_left _ hy))
    · exact List.mem_cons_of_mem _ (ih hx)

/-- What is met was on the stack or is owned by something that is met. -/
theorem owner_of_mem_entriesFrom {stack : List Entry} {x : Entry} (hx : x ∈ entriesFrom stack) :
    x ∈ stack ∨ ∃ y ∈ entriesFrom stack, x ∈ y.owned := by
  induction stack using entriesFrom.induct with
  | case1 => simp [entriesFrom] at hx
  | case2 e stack ih =>
    rw [entriesFrom] at hx ⊢
    rcases List.mem_cons.1 hx with rfl | hx
    · exact .inl List.mem_cons_self
    · rcases ih hx with h | ⟨y, hy, hxy⟩
      · rcases List.mem_append.1 h with h | h
        · exact .inr ⟨e, List.mem_cons_self, h⟩
        · exact .inl (List.mem_cons_of_mem _ h)
      · exact .inr ⟨y, List.mem_cons_of_mem _ hy, hxy⟩

theorem Entry.mem_owned {x y : Entry} : y ∈ x.owned ↔ y.spot ∈ x.spot.owned ∧ y.owner = some x.spot := by
  simp only [Entry.owned, List.mem_map]
  constructor
  · rintro ⟨s, hs, rfl⟩
    exact ⟨hs, rfl⟩
  · rintro ⟨hs, ho⟩
    exact ⟨y.spot, hs, by rw [← ho]⟩

theorem Json.sameKey_self {v : Json} (h : v.isKey = true) : v.sameKey v = true := by
  cases v with
  | list items => cases h
  | object entries => cases h
  | real x =>
    cases x with
    | nan => rfl
    | infinity negative =>
      cases negative <;> decide
    | finite negative mantissa exponent =>
      simp [Json.sameKey, Json.equals, Json.equals.numberEquals, Json.number?, Json.sameNumber,
        Binary64.compare?, Binary64.compareRatio, Binary64.fraction?]
  | bool b => cases b <;> decide
  | _ => simp [Json.sameKey, Json.equals, Json.equals.numberEquals, Json.number?, Json.sameNumber]

namespace Snapshot
variable {s : Snapshot} {x y : Entry}

theorem index_spots (s : Snapshot) : s.index.map (·.spot) = (rootSpot s.root).tree := by
  rw [index, entriesFrom_spots]
  simp [rootEntry]

theorem rootEntry_mem_index (s : Snapshot) : rootEntry s.root ∈ s.index :=
  mem_entriesFrom_of_mem List.mem_cons_self

theorem mem_index_of_owned (hx : x ∈ s.index) (hy : y ∈ x.owned) : y ∈ s.index :=
  mem_entriesFrom_of_owned hx hy

/-- An entry is the root or is owned by another entry. -/
theorem owner_of_mem_index (hx : x ∈ s.index) :
    x = rootEntry s.root ∨ ∃ y ∈ s.index, x ∈ y.owned := by
  rcases owner_of_mem_entriesFrom hx with h | h
  · exact .inl (List.mem_singleton.1 h)
  · exact .inr h

theorem nodup_index (s : Snapshot) : (s.index.map (·.spot.steps)).Nodup := by
  have h : ((rootSpot s.root).tree.map (·.steps)).Nodup := Spot.nodup_preorder _
  rwa [← index_spots, List.map_map] at h

theorem eq_of_mem_index (hx : x ∈ s.index) (hy : y ∈ s.index)
    (h : x.spot.steps = y.spot.steps) : x = y := List.inj_on_of_nodup_map s.nodup_index hx hy h

/-- Of two entries the later one stands below the other or is left later. -/
theorem pairwise_index (s : Snapshot) : s.index.Pairwise fun x y =>
    x.spot.steps <:+ y.spot.steps ∨ Spot.leaving x.spot.steps < Spot.leaving y.spot.steps := by
  have h : (rootSpot s.root).tree.Pairwise fun t u =>
      t.steps <:+ u.steps ∨ Spot.leaving t.steps < Spot.leaving u.steps := Spot.pairwise_preorder _
  rwa [← index_spots, List.pairwise_map] at h

def holder? (s : Snapshot) (id : Json) : Option Entry :=
  s.index.reverse.find? fun x => x.spot.element.id.sameKey id

theorem foldl_enter (es : List Entry) (r : Register) : es.foldl .enter r =
    ⟨(es.reverse.map fun x => (x.spot.element.id, x.spot)) ++ r.spots,
      (es.reverse.filterMap fun x => x.owner.map fun o => (x.spot.element.id, o)) ++ r.owners⟩ := by
  induction es generalizing r with
  | nil => rfl
  | cons e es ih =>
    rw [List.foldl_cons, ih, Register.enter]
    cases h : e.owner <;> simp [h]

theorem find?_eq (s : Snapshot) (id : Json) : s.find? id = (s.holder? id).map (·.spot) := by
  rw [find?, Register.lookUp?, register, foldl_enter, List.append_nil, List.find?_map,
    Option.map_map]
  rfl

theorem lookUp?_owners {es : List Entry} (id : Json) (h : ∀ x ∈ es, x.owner ≠ none) :
    Register.lookUp? id (es.filterMap fun x => x.owner.map fun o => (x.spot.element.id, o)) =
      (es.find? fun x => x.spot.element.id.sameKey id).bind (·.owner) := by
  induction es with
  | nil => rfl
  | cons e es ih =>
    have ih := ih fun x hx => h x (List.mem_cons_of_mem _ hx)
    obtain ⟨o, ho⟩ := Option.ne_none_iff_exists'.1 (h e List.mem_cons_self)
    cases hid : e.spot.element.id.sameKey id <;>
      simp_all [Register.lookUp?]

/-- The root comes first, and only the root has no owner. -/
theorem index_eq_cons (s : Snapshot) :
    ∃ rest, s.index = rootEntry s.root :: rest ∧ ∀ x ∈ rest, x.owner ≠ none := by
  refine ⟨entriesFrom ((rootEntry s.root).owned ++ []), by rw [index, entriesFrom], ?_⟩
  intro x hx
  rw [List.append_nil] at hx
  rcases owner_of_mem_entriesFrom hx with h | ⟨y, -, h⟩
  · simp [(Entry.mem_owned.1 h).2]
  · simp [(Entry.mem_owned.1 h).2]

theorem ownerOf?_eq (s : Snapshot) (e : Element) :
    s.ownerOf? e = (s.holder? e.id).bind (·.owner) := by
  obtain ⟨rest, hindex, hrest⟩ := s.index_eq_cons
  have hlook := lookUp?_owners e.id fun x (hx : x ∈ rest.reverse) => hrest x (List.mem_reverse.1 hx)
  rw [ownerOf?, register, foldl_enter, hindex, holder?, hindex, List.reverse_cons,
    List.filterMap_append, List.find?_append]
  simp only [List.append_nil, List.filterMap_cons, rootEntry, Option.map_none, List.filterMap_nil]
  rw [hlook]
  cases rest.reverse.find? fun x => x.spot.element.id.sameKey e.id with
  | some x => rfl
  | none =>
    cases h : (rootSpot s.root).element.id.sameKey e.id <;> simp [h]

end Snapshot
end UmlPress
