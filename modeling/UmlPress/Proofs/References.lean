import Mathlib.Data.List.Pairwise
import UmlPress.Proofs.Identity

/-!
# References

The names in a document are collected by their ids before anything is read, and a reference that
is written for a type becomes the name that is collected for it. What is collected is reached
through more lists than the elements are, but an element has the id and the name that are
collected for its object. So a reference becomes the name of the element that its id finds,
unless the id is also one of the numbers that are given out.
-/
namespace UmlPress.Document
variable {es o : Entries} {names ns : List (Json × Json)} {key : String} {xs : List Json}
  {s : Snapshot} {r type : Json}

def objectsIn (xs : List Json) : List Entries :=
  xs.filterMap fun
    | .object es => some es
    | _ => none

theorem mem_objectsIn : o ∈ objectsIn xs ↔ .object o ∈ xs := by
  rw [objectsIn, List.mem_filterMap]
  constructor
  · rintro ⟨x, hx, hobject⟩
    cases x with
    | object fs =>
      cases hobject
      exact hx
    | _ => cases hobject
  · intro h
    exact ⟨_, h, rfl⟩

def held (es : Entries) : List Entries :=
  objectsIn (listOf es "literals") ++ objectsIn (listOf es "operations") ++
    objectsIn (listOf es "attributes") ++ objectsIn (listOf es "ownedElements")

theorem exists_of_mem_held (h : o ∈ held es) : ∃ key, .object o ∈ listOf es key := by
  simp only [held, List.mem_append, mem_objectsIn] at h
  rcases h with ((h | h) | h) | h <;> exact ⟨_, h⟩

theorem sizeOf_held_lt (h : o ∈ held es) : sizeOf o < sizeOf es := by
  obtain ⟨key, hkey⟩ := exists_of_mem_held h
  have hlt := sizeOf_lt_of_mem_listOf hkey
  rw [Json.object.sizeOf_spec] at hlt
  omega

def reachable (es : Entries) : List Entries :=
  es :: (held es).attach.flatMap fun o => reachable o.1
termination_by sizeOf es
decreasing_by exact sizeOf_held_lt o.2

theorem reachable_eq (es : Entries) : reachable es = es :: (held es).flatMap reachable := by
  rw [reachable, List.flatMap_subtype (g := reachable) (by simp), List.unattach_attach]

def writtenId? (es : Entries) : Option Json := Keyed.get? "_id" es

def named? (es : Entries) : Option (Json × Json) := (writtenId? es).map fun id => (id, nameOf es)

/-! What is collected. -/

theorem eq_of_ownName (h : ownName es = .ok ns) : ns = (named? es).toList := by
  unfold ownName at h
  unfold named? writtenId?
  cases hid : Keyed.get? "_id" es with
  | none =>
    rw [hid] at h
    cases h
    rfl
  | some id =>
    rw [hid] at h
    obtain ⟨key, hkey, rfl⟩ := map_eq_ok.1 h
    cases eq_of_asKey hkey
    rfl

theorem namesUnder_eq (key : String) (es : Entries) : namesUnder key es =
    match Keyed.get? key es with
    | some v => namesOf v
    | none => .ok [] := by
  induction es with
  | nil =>
    rw [namesUnder]
    rfl
  | cons e rest ih =>
    obtain ⟨k, v⟩ := e
    rw [namesUnder, Keyed.get?]
    by_cases h : k = key
    · rw [if_pos h, if_pos h]
    · rw [if_neg h, if_neg h, ih]

/-- Names are collected from the objects of a list, the last one first. -/
theorem perm_namesFromLast
    (ih : ∀ o ∈ objectsIn xs, ∀ ns, namesIn (.object o) = .ok ns →
      ns.Perm ((reachable o).filterMap named?))
    (h : namesFromLast xs = .ok ns) :
    ns.Perm (((objectsIn xs).flatMap reachable).filterMap named?) := by
  induction xs generalizing ns with
  | nil =>
    cases h
    exact .nil
  | cons x rest ihrest =>
    rw [namesFromLast] at h
    obtain ⟨first, hfirst, h⟩ := bind_eq_ok.1 h
    obtain ⟨later, hlater, h⟩ := bind_eq_ok.1 h
    cases h
    have hrest : later.Perm (((objectsIn rest).flatMap reachable).filterMap named?) := by
      apply ihrest _ hlater
      intro o ho
      exact ih o (mem_objectsIn.2 (List.mem_cons_of_mem _ (mem_objectsIn.1 ho)))
    cases x with
    | object o =>
      have hobject := ih o (mem_objectsIn.2 List.mem_cons_self) first hfirst
      have hsplit : objectsIn (.object o :: rest) = o :: objectsIn rest := rfl
      rw [hsplit, List.flatMap_cons, List.filterMap_append]
      exact List.perm_append_comm.trans (hobject.append hrest)
    | _ =>
      rw [namesIn] at hfirst
      · cases hfirst
        rw [List.append_nil]
        exact hrest
      · simp

theorem perm_namesUnder
    (ih : ∀ o ∈ objectsIn (listOf es key), ∀ ns, namesIn (.object o) = .ok ns →
      ns.Perm ((reachable o).filterMap named?))
    (h : namesUnder key es = .ok ns) :
    ns.Perm (((objectsIn (listOf es key)).flatMap reachable).filterMap named?) := by
  rw [namesUnder_eq] at h
  unfold listOf Json.memberD at ih ⊢
  cases hv : Keyed.get? key es with
  | none =>
    rw [hv] at h
    cases h
    exact .nil
  | some v =>
    rw [hv] at h ih
    cases v with
    | list xs => exact perm_namesFromLast ih h
    | _ =>
      change namesOf _ = _ at h
      rw [namesOf] at h
      · obtain ⟨items, -, rfl⟩ := map_eq_ok.1 h
        exact .nil
      · simp

/-- Apart from their order, the collected names are those of the reachable objects. -/
theorem perm_namesIn {es : Entries} {names : List (Json × Json)}
    (h : namesIn (.object es) = .ok names) : names.Perm ((reachable es).filterMap named?) := by
  have ih : ∀ o ∈ held es, ∀ ns, namesIn (.object o) = .ok ns →
      ns.Perm ((reachable o).filterMap named?) := fun o ho ns hns => perm_namesIn hns
  simp only [held, List.mem_append] at ih
  rw [namesIn] at h
  obtain ⟨own, hown, h⟩ := bind_eq_ok.1 h
  obtain ⟨literals, hliterals, h⟩ := bind_eq_ok.1 h
  obtain ⟨operations, hoperations, h⟩ := bind_eq_ok.1 h
  obtain ⟨attributes, hattributes, h⟩ := bind_eq_ok.1 h
  obtain ⟨owned, howned, h⟩ := bind_eq_ok.1 h
  cases h
  cases eq_of_ownName hown
  have hliterals := perm_namesUnder (fun o ho => ih o (.inl (.inl (.inl ho)))) hliterals
  have hoperations := perm_namesUnder (fun o ho => ih o (.inl (.inl (.inr ho)))) hoperations
  have hattributes := perm_namesUnder (fun o ho => ih o (.inl (.inr ho))) hattributes
  have howned := perm_namesUnder (fun o ho => ih o (.inr ho)) howned
  have hself : (reachable es).filterMap named? =
      (named? es).toList ++ ((held es).flatMap reachable).filterMap named? := by
    rw [reachable_eq, List.filterMap_cons]
    cases named? es <;> rfl
  rw [hself, held]
  simp only [List.flatMap_append, List.filterMap_append, ← List.append_assoc]
  have hlists := ((hliterals.append hoperations).append hattributes).append howned
  simpa only [List.append_assoc] using hlists.append_left (named? es).toList
termination_by sizeOf es
decreasing_by exact sizeOf_held_lt ho

/-! Ids that are written once. -/

/-- Written ids are texts that are not empty, and no two objects have the same one. -/
structure IdsProper (es : Entries) : Prop where
  texts : ∀ o ∈ reachable es, ∀ id, writtenId? o = some id → ∃ t, t ≠ "" ∧ id = .text t
  differ : (reachable es).Pairwise fun o o' =>
    ∀ id, writtenId? o = some id → writtenId? o' ≠ some id

namespace IdsProper

theorem eq_of_writtenId? (h : IdsProper es) {o o' : Entries} (ho : o ∈ reachable es)
    (ho' : o' ∈ reachable es) (hr : writtenId? o = some r) (hr' : writtenId? o' = some r) :
    o = o' := by
  have hsymm : Std.Symm fun o o' : Entries =>
      ∀ id, writtenId? o = some id → writtenId? o' ≠ some id :=
    ⟨fun _ _ hne id hid hid' => hne id hid' hid⟩
  by_contra hne
  exact h.differ.forall ho ho' hne r hr hr'

/-- A collected name is that of an object with the id. -/
theorem exists_of_mem_names (hnames : namesIn (.object es) = .ok names) {n : Json × Json}
    (hn : n ∈ names) : ∃ o ∈ reachable es, writtenId? o = some n.1 ∧ n.2 = nameOf o := by
  rw [(perm_namesIn hnames).mem_iff, List.mem_filterMap] at hn
  obtain ⟨o, ho, hnamed⟩ := hn
  obtain ⟨id, hid, rfl⟩ := Option.map_eq_some_iff.1 hnamed
  exact ⟨o, ho, hid, rfl⟩

/-- A written id has the name of its object. -/
theorem nameFor?_of_written (h : IdsProper es) (hnames : namesIn (.object es) = .ok names)
    (ho : o ∈ reachable es) (hr : writtenId? o = some r) : nameFor? names r = some (nameOf o) := by
  obtain ⟨t, -, rfl⟩ := h.texts o ho r hr
  have hmem : (.text t, nameOf o) ∈ names := by
    rw [(perm_namesIn hnames).mem_iff, List.mem_filterMap]
    exact ⟨o, ho, by rw [named?, hr]; rfl⟩
  have hsome : (names.reverse.find? fun n => n.1.sameKey (.text t)).isSome = true := by
    rw [List.find?_isSome]
    exact ⟨_, List.mem_reverse.2 hmem, Json.sameKey_text_iff.2 rfl⟩
  obtain ⟨n, hn⟩ := Option.isSome_iff_exists.1 hsome
  have hsame : n.1.sameKey (.text t) = true := by simpa using List.find?_some hn
  have hkey := Json.sameKey_text_iff.1 hsame
  obtain ⟨o', ho', hid, hname⟩ :=
    exists_of_mem_names hnames (List.mem_reverse.1 (List.mem_of_find?_eq_some hn))
  rw [hkey] at hid
  rw [nameFor?, hn, Option.map_some, hname, h.eq_of_writtenId? ho' ho hid hr]

/-- An id that is not written has no name. -/
theorem nameFor?_of_unwritten (h : IdsProper es) (hnames : namesIn (.object es) = .ok names)
    (hr : ∀ o ∈ reachable es, writtenId? o ≠ some r) : nameFor? names r = none := by
  rw [nameFor?, Option.map_eq_none_iff, List.find?_eq_none]
  intro n hn hsame
  obtain ⟨o, ho, hid, -⟩ := exists_of_mem_names hnames (List.mem_reverse.1 hn)
  obtain ⟨t, -, heq⟩ := h.texts o ho _ hid
  rw [heq] at hid hsame
  exact hr o ho (Json.text_sameKey_iff.1 hsame ▸ hid)

end IdsProper

/-- A reference reads as the name that its id has, if it is the id of anything. -/
theorem name_of_reference (h : IdsProper es) (hnames : namesIn (.object es) = .ok names)
    {ref : Entries} (hr : Keyed.get? "$ref" ref = some r)
    (htype : ShowsType names (.object ref) type) :
    ((∀ o ∈ reachable es, writtenId? o ≠ some r) → type = .text "") ∧
      ∀ o ∈ reachable es, writtenId? o = some r → type = nameOf o := by
  have href : Json.memberD ref "$ref" .null = r := by rw [Json.memberD, hr]; rfl
  simp only [ShowsType, href] at htype
  split at htype
  · replace htype : type = (nameFor? names r).getD (.text "") := htype
    constructor
    · intro hno
      rw [htype, h.nameFor?_of_unwritten hnames hno]
      rfl
    · intro o ho hwritten
      rw [htype, h.nameFor?_of_written hnames ho hwritten]
      rfl
  · rename_i hempty
    refine ⟨fun _ => htype, fun o ho hwritten => ?_⟩
    obtain ⟨t, hne, rfl⟩ := h.texts o ho _ hwritten
    simp [Json.truthy, hne] at hempty

/-! Elements and their objects. -/

theorem reachable_of_mem_outline {i j : Item} (h : j ∈ i.outline) :
    j.entries ∈ reachable i.entries := by
  induction i using Item.inductionOn with
  | step i ih =>
    rw [Item.outline_eq] at h
    rw [reachable_eq]
    rcases List.mem_cons.1 h with rfl | h
    · exact List.mem_cons_self
    · obtain ⟨c, hc, hj⟩ := List.mem_flatMap.1 h
      have howned : c.entries ∈ held i.entries := by
        unfold Item.owned at hc
        split at hc
        · have hmem := mem_objectsIn.2 (mem_itemsBelow hc).1
          exact List.mem_append_right _ hmem
        · cases hc
      exact List.mem_cons_of_mem _ (List.mem_flatMap.2 ⟨c.entries, howned, ih c hc hj⟩)

/-- Each of some items has its written id or one of the numbers. -/
theorem id_of_mem_pairs {pairs : List (Item × Spot)} {number : Nat}
    (h : pairs.map (·.2.element.id) = idsFrom number (pairs.map (·.1))) :
    ∀ q ∈ pairs, q.1.hasId = true ∧ q.2.element.id = member q.1.entries "_id" ∨
      ∃ k, number < k ∧ k ≤ number + missingIds (pairs.map (·.1)) ∧
        q.2.element.id = generatedId k := by
  induction pairs generalizing number with
  | nil => simp
  | cons p rest ih =>
    rw [List.map_cons, List.map_cons, idsFrom] at h
    rw [List.forall_mem_cons, List.map_cons, missingIds]
    cases hid : p.1.hasId with
    | true =>
      rw [hid, if_pos rfl] at h
      obtain ⟨hself, hrest⟩ := List.cons.inj h
      rw [List.countP_cons_of_neg (by simp [hid])]
      exact ⟨.inl ⟨rfl, hself⟩, ih hrest⟩
    | false =>
      rw [hid, if_neg (by simp)] at h
      obtain ⟨hself, hrest⟩ := List.cons.inj h
      rw [List.countP_cons_of_pos (by simp [hid])]
      refine ⟨.inr ⟨number + 1, by omega, by omega, hself⟩, fun q hq => ?_⟩
      obtain hwritten | ⟨k, hlow, hhigh, hk⟩ := ih hrest q hq
      · exact .inl hwritten
      · rw [missingIds] at hhigh
        exact .inr ⟨k, by omega, by omega, hk⟩

/-- The type of an object was settled: a reference has become the name of what has its id. It is
the name of what the id finds, unless the id is given out as well. -/
def TypeRefers (es : Entries) (s : Snapshot) (v type : Json) : Prop :=
  ∃ holder, v = .object holder ∧ ∀ ref r,
    Keyed.get? "type" holder = some (.object ref) → Keyed.get? "$ref" ref = some r →
      ((∀ o ∈ reachable es, writtenId? o ≠ some r) → type = .text "") ∧
      ∀ o ∈ reachable es, writtenId? o = some r → type = nameOf o ∧
        ((∀ k, 1 ≤ k → k ≤ missingIds (elementsOf es) → r ≠ generatedId k) →
          ∀ spot, s.find r = .ok (some spot) → type = spot.element.name)

/-- What an id finds is below the top element or is the package around it, which has the name of
the top element. -/
theorem exists_mem_tree_of_find {top spot : Spot} {t : String}
    (hroot : s.root = wrapped top.element)
    (hindex : s.index.map (·.spot) =
      (if top.element.isPackage then [] else [Snapshot.rootSpot s.root]) ++ top.tree)
    (h : s.find (.text t) = .ok (some spot)) :
    ∃ p ∈ top.tree, p.element.id = .text t ∧ p.element.name = spot.element.name := by
  have hfind : s.find? (.text t) = some spot := Except.ok.inj h
  rw [Snapshot.find?_eq] at hfind
  obtain ⟨x, hx, rfl⟩ := Option.map_eq_some_iff.1 hfind
  obtain ⟨hmem, hsame, -⟩ := Snapshot.holder?_eq_some hx
  have hid := Json.sameKey_text_iff.1 hsame
  have hspot : x.spot ∈ s.index.map (·.spot) := List.mem_map_of_mem hmem
  rw [hindex, List.mem_append] at hspot
  rcases hspot with hspot | hspot
  · by_cases hpackage : top.element.isPackage = true
    · rw [if_pos hpackage] at hspot
      cases hspot
    · rw [if_neg hpackage] at hspot
      have htop : top ∈ top.tree := by
        rw [Spot.tree_eq]
        exact List.mem_cons_self
      have haround : x.spot.element.id = top.element.id ∧
          x.spot.element.name = top.element.name := by
        rw [List.mem_singleton.1 hspot, Snapshot.rootSpot, hroot, wrapped, if_neg hpackage]
        exact ⟨rfl, rfl⟩
      exact ⟨top, htop, haround.1 ▸ hid, haround.2.symm⟩
  · exact ⟨x.spot, hspot, hid, rfl⟩

structure Collected (es : Entries) (s : Snapshot) (names : List (Json × Json)) : Prop where
  proper : IdsProper es
  names : namesIn (.object es) = .ok names
  found : ∀ r spot, s.find r = .ok (some spot) → ∀ o ∈ reachable es, writtenId? o = some r →
    (∀ k, 1 ≤ k → k ≤ missingIds (elementsOf es) → r ≠ generatedId k) →
      spot.element.name = nameOf o

theorem collected_of_agrees {top : Spot} {pairs : List (Item × Spot)} {progress : Progress}
    (hids : IdsProper es) (hnames : namesIn (.object es) = .ok names)
    (hroot : s.root = wrapped top.element)
    (hindex : s.index.map (·.spot) =
      (if top.element.isPackage then [] else [Snapshot.rootSpot s.root]) ++ top.tree)
    (hagrees : Agrees names pairs (Item.top es).outline top.tree {} progress) :
    Collected es s names := by
  refine ⟨hids, hnames, fun r spot hfind o ho hwritten hfree => ?_⟩
  obtain ⟨t, hne, rfl⟩ := hids.texts o ho r hwritten
  obtain ⟨p, hp, hid, hname⟩ := exists_mem_tree_of_find hroot hindex hfind
  have helements : pairs.map (·.1) = elementsOf es := hagrees.elements
  have hpairs : pairs.map (·.2.element.id) = idsFrom 0 (pairs.map (·.1)) := by
    have hspots := hagrees.ids
    rwa [← hagrees.places, List.map_map] at hspots
  rw [← hagrees.places] at hp
  obtain ⟨q, hq, rfl⟩ := List.mem_map.1 hp
  rcases id_of_mem_pairs hpairs q hq with ⟨-, hself⟩ | ⟨k, hlow, hhigh, hk⟩
  · have hitem : q.1 ∈ (Item.top es).outline := by
      have hmem : q.1 ∈ pairs.map (·.1) := List.mem_map_of_mem hq
      rw [helements] at hmem
      exact (List.mem_filter.1 hmem).1
    have hq' : writtenId? q.1.entries = some (.text t) := by
      rw [hid] at hself
      unfold member Json.memberD at hself
      unfold writtenId?
      cases hget : Keyed.get? "_id" q.1.entries with
      | none =>
        rw [hget] at hself
        cases hself
      | some id =>
        rw [hget] at hself
        exact congrArg some hself.symm
    have hsame := hids.eq_of_writtenId? (reachable_of_mem_outline hitem) ho hq' hwritten
    rw [← hname, (hagrees.shows q hq).name, hsame]
    rfl
  · rw [helements, Nat.zero_add] at hhigh
    exact absurd (hid.symm.trans hk) (hfree k hlow hhigh)

namespace Collected

theorem typeRefers (h : Collected es s names) {holder : Entries}
    (htype : ShowsType names (Json.memberD holder "type" (.text "")) type) :
    TypeRefers es s (.object holder) type := by
  refine ⟨holder, rfl, fun ref r href hr => ?_⟩
  have hwritten : Json.memberD holder "type" (.text "") = .object ref := by
    rw [Json.memberD, href]
    rfl
  rw [hwritten] at htype
  obtain ⟨hempty, hname⟩ := name_of_reference h.proper h.names hr htype
  refine ⟨hempty, fun o ho hid => ⟨hname o ho hid, fun hfree spot hspot => ?_⟩⟩
  rw [hname o ho hid, h.found r spot hspot o ho hid hfree]

theorem attributes (h : Collected es s names) {vs : List Json} {as : List Attribute}
    (hshows : List.Forall₂ (ShowsAttribute names) vs as) :
    List.Forall₂ (fun v a => TypeRefers es s v a.type) vs as := by
  apply hshows.imp
  rintro _ a ⟨holder, rfl, -, -, htype⟩
  exact h.typeRefers htype

theorem parameters (h : Collected es s names) {vs : List Json} {ps : List Parameter}
    (hshows : List.Forall₂ (ShowsParameter names) vs ps) :
    List.Forall₂ (fun v p => TypeRefers es s v p.type) vs ps := by
  apply hshows.imp
  rintro _ p ⟨holder, rfl, -, -, htype⟩
  exact h.typeRefers htype

end Collected

/-- In a document whose ids differ the attributes and parameters have the types that they refer
to, wherever these stand. -/
theorem references_name_found (h : read (.object es) = .ok s) (hids : IdsProper es) :
    ∃ top : Spot, s.root = wrapped top.element ∧
      s.index.map (·.spot) =
        (if top.element.isPackage then [] else [Snapshot.rootSpot s.root]) ++ top.tree ∧
      ∃ pairs : List (Item × Spot),
        pairs.map (·.1) = elementsOf es ∧ pairs.map (·.2) = top.tree ∧
        ∀ q ∈ pairs, ∀ attributes operations,
          q.2.element.members? = some (attributes, operations) →
            List.Forall₂ (fun v a => TypeRefers es s v a.type)
              (listOf q.1.entries "attributes") attributes ∧
            List.Forall₂ (fun v o => ∃ fields, v = .object fields ∧
                List.Forall₂ (fun w p => TypeRefers es s w p.type)
                  (listOf fields "parameters") o.parameters)
              (listOf q.1.entries "operations") operations := by
  obtain ⟨es', names, top, pairs, progress, hes, hnames, hs, -, hindex, hagrees⟩ := exists_agrees h
  cases hes
  have hroot : s.root = wrapped top.element := by rw [hs]
  have hcollected := collected_of_agrees hids hnames hroot hindex hagrees
  refine ⟨top, hroot, hindex, _, hagrees.elements, hagrees.places, ?_⟩
  intro q hq attributes operations hmembers
  have hshape := (hagrees.shows q hq).shape
  unfold Element.members? at hmembers
  split at hmembers
  · rename_i isInterface as os hclassifier
    cases hmembers
    rw [hclassifier] at hshape
    cases hshape with
    | classifier _ hattributes hoperations =>
      refine ⟨hcollected.attributes hattributes, hoperations.imp ?_⟩
      rintro _ o ⟨fields, rfl, -, -, -, hparameters⟩
      exact ⟨fields, rfl, hcollected.parameters hparameters⟩
  · cases hmembers

/-! Two classes, the first one with references to both and to nothing. -/

def referring (name id : String) : Entries :=
  [("name", .text name), ("type", .object [("$ref", .text id)])]

namespace TypeRefers
variable {name id : String}

theorem eq_nameOf (h : TypeRefers es s (.object (referring name id)) type) (ho : o ∈ reachable es)
    (hid : writtenId? o = some (.text id)) : type = nameOf o := by
  obtain ⟨holder, heq, h⟩ := h
  cases heq
  exact ((h _ _ rfl rfl).2 o ho hid).1

theorem eq_empty (h : TypeRefers es s (.object (referring name id)) type)
    (hno : ∀ o ∈ reachable es, writtenId? o ≠ some (.text id)) : type = .text "" := by
  obtain ⟨holder, heq, h⟩ := h
  cases heq
  exact (h _ _ rfl rfl).1 hno

end TypeRefers

def docking : Entries :=
  [("name", .text "dock"), ("parameters", .list [.object (referring "at" "p")])]

def ship : Entries := [("_type", .text "UMLClass"), ("_id", .text "s"), ("name", .text "Ship"),
  ("attributes", .list [.object (referring "home" "p"), .object (referring "sister" "s"),
    .object (referring "captain" "c")]),
  ("operations", .list [.object docking])]

def port : Entries := [("_type", .text "UMLClass"), ("_id", .text "p"), ("name", .text "Port")]

def fleet : Entries := [("_type", .text "Project"), ("_id", .text "f"), ("name", .text "fleet"),
  ("ownedElements", .list [.object ship, .object port])]

theorem elementsOf_fleet : elementsOf fleet = [⟨[], fleet⟩, ⟨[0], ship⟩, ⟨[1], port⟩] := by
  simp [elementsOf, Item.outline_eq, Item.owned, Item.isElement, Item.edge?, Item.edgeTypes,
    Item.top, fleet, ship, port, Item.type, Json.memberD, Keyed.get?, Json.equals, listOf,
    itemsBelow]

theorem reachable_fleet : reachable fleet = [fleet, ship, docking, referring "home" "p",
    referring "sister" "s", referring "captain" "c", port] := by
  simp [reachable_eq, held, objectsIn, listOf, Json.memberD, Keyed.get?, fleet, ship,
    port, docking, referring]

theorem idsProper_fleet : IdsProper fleet := by
  constructor
  · rw [reachable_fleet]
    simp [writtenId?, Keyed.get?, fleet, ship, port, docking, referring]
  · rw [reachable_fleet]
    simp [writtenId?, Keyed.get?, fleet, ship, port, docking, referring]

theorem references_name_found_fleet : ∃ s, read (.object fleet) = .ok s ∧
    ∃ pairs : List (Item × Spot), pairs.map (·.1) = elementsOf fleet ∧
      ∀ q ∈ pairs, q.1.steps = [0] → ∀ attributes operations,
        q.2.element.members? = some (attributes, operations) →
          attributes.map (·.type) = [.text "Port", .text "Ship", .text ""] ∧
          operations.map (fun o => o.parameters.map (·.type)) = [[.text "Port"]] := by
  obtain ⟨s, hs⟩ : ∃ s, read (.object fleet) = .ok s := by
    have hread : (read (.object fleet)).toOption.isSome = true := by decide +kernel
    cases h : read (.object fleet) with
    | error f => simp [h, Except.toOption] at hread
    | ok s => exact ⟨s, rfl⟩
  obtain ⟨top, -, -, pairs, hitems, -, hrefers⟩ := references_name_found hs idsProper_fleet
  refine ⟨s, hs, pairs, hitems, fun q hq hsteps attributes operations hmembers => ?_⟩
  have hitem : q.1 = ⟨[0], ship⟩ := by
    have hmem : q.1 ∈ pairs.map (·.1) := List.mem_map_of_mem hq
    rw [hitems, elementsOf_fleet] at hmem
    simp only [List.mem_cons, List.not_mem_nil, or_false] at hmem
    rcases hmem with h | h | h <;> rw [h] at hsteps ⊢ <;> cases hsteps
  have hport {name : String} {type : Json}
      (h : TypeRefers fleet s (.object (referring name "p")) type) : type = .text "Port" :=
    h.eq_nameOf (o := port) (by simp [reachable_fleet]) rfl
  have hship {name : String} {type : Json}
      (h : TypeRefers fleet s (.object (referring name "s")) type) : type = .text "Ship" :=
    h.eq_nameOf (o := ship) (by simp [reachable_fleet]) rfl
  have hnone {name : String} {type : Json}
      (h : TypeRefers fleet s (.object (referring name "c")) type) : type = .text "" := by
    apply h.eq_empty
    rw [reachable_fleet]
    simp [writtenId?, Keyed.get?, fleet, ship, port, docking, referring]
  obtain ⟨hattributes, hoperations⟩ := hrefers q hq attributes operations hmembers
  rw [hitem] at hattributes hoperations
  constructor
  · obtain _ | ⟨h₁, _ | ⟨h₂, _ | ⟨h₃, _ | _⟩⟩⟩ := hattributes
    simp [hport h₁, hship h₂, hnone h₃]
  · cases hoperations with
    | @cons _ o _ _ hdock hrest =>
      cases hrest
      obtain ⟨fields, heq, hparameters⟩ := hdock
      cases heq
      rw [List.map_singleton]
      generalize o.parameters = parameters at hparameters ⊢
      obtain _ | ⟨h, _ | _⟩ := hparameters
      simp [hport h]

def stray : Entries := [("_type", .text "Project"), ("_id", .text "_generated_1"),
  ("name", .text "P"), ("ownedElements", .list [.object [("_type", .text "UMLClass"),
    ("name", .text "A"), ("attributes", .list [.object (referring "x" "_generated_1")])]])]

theorem reachable_stray : reachable stray = [stray, [("_type", .text "UMLClass"),
    ("name", .text "A"), ("attributes", .list [.object (referring "x" "_generated_1")])],
    referring "x" "_generated_1"] := by
  simp [reachable_eq, held, objectsIn, listOf, Json.memberD, Keyed.get?, stray, referring]

/-- The id finds the class, and the type is the name of the project. -/
theorem given_out_id_misnames : IdsProper stray ∧ ∃ s, read (.object stray) = .ok s ∧
    ∃ p, s.find (.text "_generated_1") = .ok (some p) ∧ p.element.name = .text "A" ∧
      ∃ e ∈ s.root.owned, ∃ a, e.members? = some ([a], []) ∧ a.type = .text "P" := by
  constructor
  · constructor
    · rw [reachable_stray]
      simp [writtenId?, Keyed.get?, stray, referring]
    · rw [reachable_stray]
      simp [writtenId?, Keyed.get?, stray, referring]
  · have hlook : (read (.object stray)).toOption.map (fun s =>
        ((s.find? (.text "_generated_1")).any (·.element.name.equals (.text "A")),
          s.root.owned.any fun e => e.members?.any fun members =>
            members.1.length = 1 && members.1.all (·.type.equals (.text "P")) &&
              members.2.isEmpty)) = some (true, true) := by decide +kernel
    cases hs : read (.object stray) with
    | error f =>
      rw [hs] at hlook
      cases hlook
    | ok s =>
      rw [hs] at hlook
      obtain ⟨hfound, htype⟩ := Prod.mk.inj (Option.some.inj hlook)
      obtain ⟨e, he, htype⟩ := List.any_eq_true.1 htype
      refine ⟨s, rfl, ?_⟩
      cases hp : s.find? (.text "_generated_1") with
      | none =>
        rw [hp] at hfound
        cases hfound
      | some p =>
        rw [hp] at hfound
        have hfind : s.find (.text "_generated_1") = .ok (some p) := congrArg Except.ok hp
        refine ⟨p, hfind, equals_text.1 hfound, e, he, ?_⟩
        obtain ⟨⟨attributes, operations⟩, hmembers, htype⟩ := (Option.any_eq_true _ _).1 htype
        simp only [Bool.and_eq_true, decide_eq_true_iff, List.isEmpty_iff] at htype
        obtain ⟨⟨hone, htype⟩, rfl⟩ := htype
        obtain ⟨a, rfl⟩ := List.length_eq_one_iff.1 hone
        exact ⟨a, hmembers, equals_text.1 (List.all_eq_true.1 htype a List.mem_cons_self)⟩

end UmlPress.Document
