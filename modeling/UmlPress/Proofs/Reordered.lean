import Mathlib.Data.Multiset.Bind
import UmlPress.Proofs.Alike
import UmlPress.Proofs.Identity

/-!
# Models in another order

What an element owns may stand in another order, in a package or anywhere else, and
what that owns in turn. The index then has the same entries in another order, up to
the places they stand at. If all ids differ, an id still finds the same element and
that element the same owner, so the two models look alike.
-/
namespace UmlPress

/-- The same element, with all that it owns in any order. -/
inductive Element.Reordered : Element → Element → Prop
  | node (facts : Facts) (shape : Shape) {owned owned' : List Element} :
    Multiset.Rel Element.Reordered (owned : Multiset Element) owned' →
    Element.Reordered (.node facts shape owned) (.node facts shape owned')

namespace Element
variable {e e' : Element}

theorem Reordered.refl (e : Element) : e.Reordered e := by
  induction e with
  | node facts shape owned ih => exact .node facts shape (Multiset.rel_refl_of_refl_on ih)

/-- All that is owned, each in an order of its own, and then in another order. -/
theorem Reordered.of_perm (facts : Facts) (shape : Shape) {owned each owned' : List Element}
    (heach : List.Forall₂ Reordered owned each) (h : each.Perm owned') :
    (Element.node facts shape owned).Reordered (Element.node facts shape owned') := by
  refine .node facts shape ?_
  rw [← Multiset.coe_eq_coe.2 h]
  clear h
  induction heach with
  | nil => exact .zero
  | cons he _ ih => exact .cons he ih

theorem Reordered.facts (h : e.Reordered e') : e'.facts = e.facts := by
  obtain ⟨facts, shape, -⟩ := h
  rfl

theorem Reordered.id (h : e.Reordered e') : e'.id = e.id := congrArg Facts.id h.facts

theorem Reordered.owned (h : e.Reordered e') :
    Multiset.Rel Reordered (e.owned : Multiset Element) e'.owned := by
  obtain ⟨facts, shape, h⟩ := h
  exact h

end Element

/-- The same entry of the index in two orders. -/
structure Entry.Reordered (x x' : Entry) : Prop where
  element : x.spot.element.Reordered x'.spot.element
  owner : Option.Rel (fun o o' : Spot => o.element.Reordered o'.element) x.owner x'.owner

theorem spotsBelow_elements (steps : List Nat) (number : Nat) (es : List Element) :
    (spotsBelow steps number es).map (·.element) = es := by
  induction es generalizing number with
  | nil => rfl
  | cons e r ih => rw [spotsBelow, List.map_cons, ih]

theorem Entry.owned_elements (x : Entry) :
    x.owned.map (·.spot.element) = x.spot.element.owned := by
  have h := congrArg (List.map Spot.element) x.map_spot_owned
  rw [List.map_map, Spot.owned, spotsBelow_elements] at h
  exact h

theorem entriesFrom_append (xs ys : List Entry) :
    entriesFrom (xs ++ ys) = entriesFrom xs ++ entriesFrom ys := by
  induction xs using entriesFrom.induct with
  | case1 => simp [entriesFrom]
  | case2 e stack ih =>
    rw [List.cons_append, entriesFrom, entriesFrom, ← List.append_assoc, ih, List.cons_append]

theorem entriesFrom_eq (stack : List Entry) :
    entriesFrom stack = stack.flatMap fun x => entriesFrom [x] := by
  induction stack with
  | nil => simp [entriesFrom]
  | cons x rest ih => rw [List.flatMap_cons, ← ih, ← entriesFrom_append, List.singleton_append]

theorem entriesFrom_singleton (x : Entry) :
    entriesFrom [x] = x :: x.owned.flatMap fun y => entriesFrom [y] := by
  rw [entriesFrom, List.append_nil, entriesFrom_eq]

/-- What is below an entry is the same in both orders. -/
theorem rel_entriesFrom {x x' : Entry} (h : x.Reordered x') :
    Multiset.Rel Entry.Reordered (entriesFrom [x] : Multiset Entry) (entriesFrom [x']) := by
  induction he : x.spot.element generalizing x x' with
  | node facts shape owned ih =>
    have hbelow : Multiset.Rel (fun y y' : Entry => y.spot.element.Reordered y'.spot.element)
        (x.owned : Multiset Entry) x'.owned := by
      have howned := h.element.owned
      rwa [← x.owned_elements, ← x'.owned_elements, ← Multiset.map_coe, ← Multiset.map_coe,
        Multiset.rel_map] at howned
    have hentries : Multiset.Rel (fun y y' : Entry => y ∈ x.owned ∧ y.Reordered y')
        (x.owned : Multiset Entry) x'.owned := by
      refine hbelow.mono fun y hy y' hy' hyy' => ⟨hy, hyy', ?_⟩
      rw [(Entry.mem_owned.1 hy).2, (Entry.mem_owned.1 hy').2]
      exact .some h.element
    rw [entriesFrom_singleton, entriesFrom_singleton, ← Multiset.cons_coe, ← Multiset.cons_coe,
      ← Multiset.coe_bind, ← Multiset.coe_bind]
    refine .cons h (Multiset.rel_bind ?_ hentries)
    rintro y y' ⟨hy, hyy'⟩
    have hmem : y.spot.element ∈ owned := by
      have hmap := List.mem_map_of_mem (f := fun y : Entry => y.spot.element) hy
      rwa [x.owned_elements, he] at hmap
    exact ih _ hmem hyy' rfl

/-- The same model in another order. The base is the element with the same id. -/
structure Snapshot.Reordered (s s' : Snapshot) : Prop where
  root : s.root.Reordered s'.root
  edges : s'.edges = s.edges
  base : ∃ x ∈ s.index, ∃ x' ∈ s'.index, x.spot = s.base ∧ x'.spot = s'.base ∧
    x'.spot.element.id = x.spot.element.id

theorem Json.isKey_of_sameKey {a b : Json} (ha : a.isKey = true) (h : a.sameKey b = true) :
    b.isKey = true := by
  cases b with
  | list items => cases a <;> simp_all [sameKey, equals, equals.numberEquals, number?, isKey]
  | object entries => cases a <;> simp_all [sameKey, equals, equals.numberEquals, number?, isKey]
  | _ => rfl

namespace Snapshot
variable {s s' : Snapshot} {x x' y : Entry} {id : Json}

/-- With ids that differ an element is found by every id that is the same as its own. -/
theorem holder?_of_sameKey (hh : s.Hashable) (hd : s.Distinct) (hx : x ∈ s.index)
    (h : x.spot.element.id.sameKey id = true) : s.holder? id = some x := by
  have hsome : (s.holder? id).isSome = true := by
    rw [holder?, List.find?_isSome]
    exact ⟨x, List.mem_reverse.2 hx, h⟩
  obtain ⟨y, hy⟩ := Option.isSome_iff_exists.1 hsome
  obtain ⟨hmem, hkey, -⟩ := holder?_eq_some hy
  have hid := Json.isKey_of_sameKey (hh x hx) h
  have hsame : y.spot.element.id.sameKey x.spot.element.id = true := by
    rw [Json.sameKey_iff (hh y hmem) hid] at hkey
    rw [Json.sameKey_iff (hh x hx) hid] at h
    rw [Json.sameKey_iff (hh y hmem) (hh x hx), hkey, h]
  rw [hy, eq_of_mem_index hmem hx (hd y hmem x hx hsame)]

namespace Reordered

/-- Both models have the same entries. -/
theorem rel_index (h : s.Reordered s') :
    Multiset.Rel Entry.Reordered (s.index : Multiset Entry) s'.index :=
  rel_entriesFrom ⟨h.root, .none⟩

theorem exists_entry (h : s.Reordered s') (hx : x ∈ s.index) :
    ∃ x' ∈ s'.index, x.Reordered x' := Multiset.exists_mem_of_rel_of_mem h.rel_index hx

theorem exists_entry' (h : s.Reordered s') (hx' : x' ∈ s'.index) :
    ∃ x ∈ s.index, x.Reordered x' :=
  Multiset.exists_mem_of_rel_of_mem (Multiset.rel_flip.2 h.rel_index) hx'

theorem perm_ids (h : s.Reordered s') : (s.index.map (·.spot.element.id)).Perm
    (s'.index.map (·.spot.element.id)) := by
  rw [← Multiset.coe_eq_coe, ← Multiset.map_coe, ← Multiset.map_coe, ← Multiset.rel_eq,
    Multiset.rel_map]
  exact h.rel_index.mono fun x _ x' _ hx => hx.element.id.symm

theorem hashable (h : s.Reordered s') (hh : s.Hashable) : s'.Hashable := by
  intro x' hx'
  obtain ⟨x, hx, hxx'⟩ := h.exists_entry' hx'
  rw [hxx'.element.id]
  exact hh x hx

theorem distinct (h : s.Reordered s') (hh : s.Hashable) (hd : s.Distinct) : s'.Distinct := by
  rw [distinct_iff (h.hashable hh), ← (h.perm_ids.map Json.mark?).nodup_iff]
  exact (distinct_iff hh).1 hd

/-- The same element at its two places. -/
theorem alike (h : s.Reordered s') (hh : s.Hashable) (hd : s.Distinct) (hx : x ∈ s.index)
    (hx' : x' ∈ s'.index) (he : x.spot.element.Reordered x'.spot.element) :
    s.Alike s' x.spot x'.spot := by
  have hid := he.id
  obtain ⟨b, hb, b', hb', hbase, hbase', hbid⟩ := h.base
  refine ⟨hid, congrArg Facts.name he.facts, ?_⟩
  rw [← hbase, ← hbase']
  -- each of the two has the id of the base, or neither has
  constructor
  · intro hsteps
    have heq := eq_of_mem_index hx' hb' hsteps
    refine hd x hx b hb ?_
    rw [← hid, heq, hbid]
    exact Json.sameKey_self (hh b hb)
  · intro hsteps
    have heq := eq_of_mem_index hx hb hsteps
    refine h.distinct hh hd x' hx' b' hb' ?_
    rw [hid, heq, ← hbid]
    exact Json.sameKey_self (h.hashable hh b' hb')

/-- An id finds the same entry in both models. -/
theorem rel_holder? (h : s.Reordered s') (hh : s.Hashable) (hd : s.Distinct) (id : Json) :
    Option.Rel (fun x x' => x ∈ s.index ∧ x' ∈ s'.index ∧ x.Reordered x')
      (s.holder? id) (s'.holder? id) := by
  cases hx : s.holder? id with
  | none =>
    cases hx' : s'.holder? id with
    | none => exact .none
    | some x' =>
      obtain ⟨hmem', hkey, -⟩ := holder?_eq_some hx'
      obtain ⟨x, hmem, hxx'⟩ := h.exists_entry' hmem'
      rw [hxx'.element.id] at hkey
      rw [holder?_of_sameKey hh hd hmem hkey] at hx
      cases hx
  | some x =>
    obtain ⟨hmem, hkey, -⟩ := holder?_eq_some hx
    obtain ⟨x', hmem', hxx'⟩ := h.exists_entry hmem
    rw [← hxx'.element.id] at hkey
    rw [holder?_of_sameKey (h.hashable hh) (h.distinct hh hd) hmem' hkey]
    exact .some ⟨hmem, hmem', hxx'⟩

/-- A model in another order looks like the model. -/
theorem like (h : s.Reordered s') (hh : s.Hashable) (hd : s.Distinct) : s.Like s' where
  length := (Multiset.card_eq_card_of_rel h.rel_index).symm
  edges := h.edges
  find id := by
    have hholder := h.rel_holder? hh hd id
    rw [find?_eq, find?_eq]
    generalize s.holder? id = found at hholder ⊢
    generalize s'.holder? id = found' at hholder ⊢
    cases hholder with
    | none => exact .none
    | some hx => exact .some (h.alike hh hd hx.1 hx.2.1 hx.2.2.element)
  owner {e e'} hid := by
    rw [ownerOf?_eq, ownerOf?_eq, hid]
    have hholder := h.rel_holder? hh hd e.id
    generalize s.holder? e.id = found at hholder ⊢
    generalize s'.holder? e.id = found' at hholder ⊢
    cases hholder with
    | none => exact .none
    | @some x x' hx =>
      obtain ⟨hmem, hmem', hxx'⟩ := hx
      show Option.Rel _ x.owner x'.owner
      have howner := hxx'.owner
      rcases ho : x.owner with _ | o <;> rcases ho' : x'.owner with _ | o' <;>
        rw [ho, ho'] at howner
      · exact .none
      · cases howner
      · cases howner
      · obtain ⟨z, hz, rfl, -⟩ := exists_owner hmem ho
        obtain ⟨z', hz', rfl, -⟩ := exists_owner hmem' ho'
        obtain ⟨hzz'⟩ := howner
        exact .some (h.alike hh hd hz hz' hzz')

/-- The bases are the same element. -/
theorem base_element (h : s.Reordered s') (hh : s.Hashable) (hd : s.Distinct) :
    s.base.element.Reordered s'.base.element := by
  obtain ⟨x, hx, x', hx', hbase, hbase', hid⟩ := h.base
  obtain ⟨y', hy', hxy'⟩ := h.exists_entry hx
  have hsame : y'.spot.element.id = x'.spot.element.id := hxy'.element.id.trans hid.symm
  have hsteps := h.distinct hh hd y' hy' x' hx' (by
    rw [hsame]
    exact Json.sameKey_self (h.hashable hh x' hx'))
  rw [eq_of_mem_index hy' hx' hsteps] at hxy'
  rw [← hbase, ← hbase']
  exact hxy'.element

end Reordered
end Snapshot
end UmlPress
