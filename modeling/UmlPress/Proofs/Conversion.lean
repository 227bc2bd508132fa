import Mathlib.Data.List.Forall2
import UmlPress.Proofs.Fallible
import UmlPress.Proofs.Owners
import UmlPress.Proofs.Outline

/-!
# Reading a document

A snapshot that is read from a document has the elements of its outline, each
under the same owner, and the edges of its outline, both in document order. An
element has the id that is written for it or, without one, the next number.
-/
namespace UmlPress.Document

/-! What an element holds, as it is written. -/

section
variable (names : List (Json × Json))

def ShowsType (v type : Json) : Prop :=
  match v with
  | .object es =>
    let id := Json.memberD es "$ref" .null
    type = if id.truthy then ((names.reverse.find? fun n => n.1.sameKey id).map (·.2)).getD
      (.text "") else .text ""
  | v => type = if v.truthy then .text v.display else .text ""

def ShowsAttribute (v : Json) (a : Attribute) : Prop :=
  ∃ es, v = .object es ∧ a.name = Json.memberD es "name" (.text "") ∧
    a.isStatic = (Json.memberD es "isStatic" .null).truthy ∧
    ShowsType names (Json.memberD es "type" (.text "")) a.type

def ShowsParameter (v : Json) (p : Parameter) : Prop :=
  ∃ es, v = .object es ∧ p.name = Json.memberD es "name" (.text "") ∧
    p.direction = (Json.memberD es "direction" .null).orElse (.text "in") ∧
    ShowsType names (Json.memberD es "type" (.text "")) p.type

def ShowsOperation (v : Json) (o : Operation) : Prop :=
  ∃ es, v = .object es ∧ o.name = Json.memberD es "name" (.text "") ∧
    o.doc = (Json.memberD es "documentation" .null).orElse (.text "") ∧
    o.isStatic = (Json.memberD es "isStatic" .null).truthy ∧
    List.Forall₂ (ShowsParameter names) (listOf es "parameters") o.parameters

def ShowsLiteral (v l : Json) : Prop :=
  ∃ es, v = .object es ∧ l = Json.memberD es "name" (.text "")

def packageTypes : List String := ["Project", "UMLModel", "UMLPackage", "UMLSubsystem"]

def knownTypes : List String := packageTypes ++ ["UMLClass", "UMLInterface", "UMLEnumeration"]

inductive ShowsShape (type : Json) (es : Entries) : Shape → Prop
  | package {t : String} : type = .text t → t ∈ packageTypes → ShowsShape type es .package
  | classifier {isInterface : Bool} {attributes : List Attribute} {operations : List Operation} :
    type = .text (if isInterface then "UMLInterface" else "UMLClass") →
    List.Forall₂ (ShowsAttribute names) (listOf es "attributes") attributes →
    List.Forall₂ (ShowsOperation names) (listOf es "operations") operations →
    ShowsShape type es (.classifier isInterface attributes operations)
  | enumeration {literals : List Json} : type = .text "UMLEnumeration" →
    List.Forall₂ ShowsLiteral (listOf es "literals") literals →
    ShowsShape type es (.enumeration literals)
  | other : (∀ t ∈ knownTypes, type ≠ .text t) → ShowsShape type es (.other type)

/-- An element holds what an object says, apart from its id and its owned
elements. -/
structure Shows (es : Entries) (e : Element) : Prop where
  name : e.name = Json.memberD es "name" (.text "")
  doc : e.facts.doc = (Json.memberD es "documentation" .null).orElse (.text "")
  shape : ShowsShape names (Json.memberD es "_type" (.text "")) es e.shape

end

theorem member_eq (es : Entries) (key : String) :
    member es key = Json.memberD es key .null := rfl

/-- What an item refers to is what the reference is read as. -/
theorem referent_eq (i : Item) (key : String) :
    i.referent key = reference (member i.entries key) := by
  unfold Item.referent
  rw [member_eq]
  generalize Json.memberD i.entries key .null = v
  cases v with
  | object es => rfl
  | _ =>
    unfold reference Json.orElse
    dsimp only
    split <;> rfl

/-- The kind of an edge is that of its type. -/
theorem edge?_below (number : Nat) (steps : List Nat) (es : Entries) :
    (⟨number :: steps, es⟩ : Item).edge? = (edgeKind? (typeOf es)).map fun kind =>
      ⟨reference (member es "source"), reference (member es "target"), kind⟩ := by
  unfold Item.edge? edgeKind? Item.edgeTypes
  rw [if_neg (List.cons_ne_nil _ _), referent_eq, referent_eq]
  simp only [List.find?_cons, List.find?_nil]
  change ((match (typeOf es).equals (.text "UMLGeneralization") with
    | true => _
    | false => match (typeOf es).equals (.text "UMLInterfaceRealization") with
      | true => _
      | false => _) : Option _).map _ = _
  cases (typeOf es).equals (.text "UMLGeneralization") with
  | true => rfl
  | false => cases (typeOf es).equals (.text "UMLInterfaceRealization") <;> rfl

theorem showsType {names : List (Json × Json)} {v type : Json}
    (h : settledType names v = .ok type) : ShowsType names v type := by
  cases v with
  | object es =>
    unfold settledType member at h
    unfold ShowsType
    dsimp only at h ⊢
    split at h
    · rename_i htruthy
      rw [if_pos htruthy]
      obtain ⟨id, hid, rfl⟩ := map_eq_ok.1 h
      unfold Json.asKey at hid
      split at hid
      · cases hid
        rfl
      · cases hid
    · rename_i htruthy
      rw [if_neg htruthy]
      exact (Except.ok.inj h).symm
  | _ =>
    cases h
    unfold ShowsType Json.orElse
    dsimp only
    split <;> rfl

/-! What has been read if there is a result. -/

section
variable {α β : Type}

theorem forall₂_of_mapM {f : α → Except Misuse β} {xs : List α} {ys : List β}
    (h : xs.mapM f = .ok ys) : List.Forall₂ (fun x y => f x = .ok y) xs ys := by
  induction xs generalizing ys with
  | nil =>
    cases h
    exact .nil
  | cons x r ih =>
    rw [List.mapM_cons] at h
    obtain ⟨y, hy, h⟩ := bind_eq_ok.1 h
    obtain ⟨rest, hrest, h⟩ := bind_eq_ok.1 h
    cases h
    exact .cons hy (ih hrest)

theorem run_bind_eq_ok {x : Convert α} {f : α → Convert β} {p p' : Progress} {b : β} :
    (x >>= f).run p = .ok (b, p') ↔
      ∃ a p₁, x.run p = .ok (a, p₁) ∧ (f a).run p₁ = .ok (b, p') := by
  rw [StateT.run_bind, bind_eq_ok]
  constructor
  · rintro ⟨⟨a, p₁⟩, hx, hf⟩
    exact ⟨a, p₁, hx, hf⟩
  · rintro ⟨a, p₁, hx, hf⟩
    exact ⟨(a, p₁), hx, hf⟩

theorem run_pure_eq_ok {a b : α} {p p' : Progress} :
    (pure a : Convert α).run p = .ok (b, p') ↔ b = a ∧ p' = p := by
  rw [StateT.run_pure]
  simp [pure, Except.pure, eq_comm]

theorem run_lift_eq_ok {x : Except Misuse α} {a : α} {p p' : Progress} :
    (liftM x : Convert α).run p = .ok (a, p') ↔ x = .ok a ∧ p' = p := by
  cases x with
  | error m => simp [liftM, monadLift, MonadLift.monadLift, StateT.lift, StateT.run, bind,
      Except.bind]
  | ok b => simp [liftM, monadLift, MonadLift.monadLift, StateT.lift, StateT.run, bind,
      Except.bind, pure, Except.pure, eq_comm]

end

theorem equals_text {v : Json} {s : String} : v.equals (.text s) = true ↔ v = .text s := by
  cases v <;> simp [Json.equals, Json.equals.numberEquals, Json.number?]

theorem isPackageType_iff {type : Json} :
    isPackageType type = true ↔ ∃ t ∈ packageTypes, type = .text t := by
  rw [isPackageType, List.any_eq_true]
  simp only [equals_text]
  rfl

/-- The items of a value are those of a list, or the first of them is a text. -/
theorem items_eq {es : Entries} {key : String} {xs : List Json}
    (h : itemsOf (member es key) = .ok xs) :
    xs = listOf es key ∨ ∃ s r, xs = .text s :: r := by
  unfold listOf
  rw [member_eq] at h
  generalize Json.memberD es key .null = v at h ⊢
  unfold itemsOf at h
  cases ht : v.truthy with
  | false =>
    simp only [ht, Bool.not_false, if_true, Except.ok.injEq] at h
    subst h
    cases v <;> simp_all [Json.truthy]
  | true =>
    rw [ht] at h
    cases v with
    | list items =>
      cases h
      exact .inl rfl
    | text s =>
      cases h
      cases hs : s.toList with
      | nil => simp_all [Json.truthy]
      | cons c r => exact .inr ⟨_, _, rfl⟩
    | object entries =>
      cases h
      cases entries with
      | nil => simp [Json.truthy] at ht
      | cons e r => exact .inr ⟨_, _, rfl⟩
    | _ => cases h

/-- What is read from objects alone is read from the objects of a list. -/
theorem forall₂_of_items {α : Type} {f : Json → Except Misuse α} {es : Entries} {key : String}
    {xs : List Json} {ys : List α} (hf : ∀ s y, f (.text s) ≠ .ok y)
    (hxs : itemsOf (member es key) = .ok xs) (hys : xs.mapM f = .ok ys) :
    List.Forall₂ (fun v y => f v = .ok y) (listOf es key) ys := by
  rcases items_eq hxs with rfl | ⟨s, r, rfl⟩
  · exact forall₂_of_mapM hys
  · rw [List.mapM_cons] at hys
    obtain ⟨y, hy, -⟩ := bind_eq_ok.1 hys
    exact absurd hy (hf s y)

/-- What is read first and settled afterwards is read and settled one by one. -/
theorem forall₂_of_settled {α : Type} {f : Json → Except Misuse α} {g : α → Except Misuse α}
    {R : Json → α → Prop} (hR : ∀ v a b, f v = .ok a → g a = .ok b → R v b) {vs : List Json}
    {ys zs : List α} (hys : List.Forall₂ (fun v y => f v = .ok y) vs ys)
    (hzs : ys.mapM g = .ok zs) : List.Forall₂ R vs zs := by
  replace hzs := forall₂_of_mapM hzs
  induction hys generalizing zs with
  | nil =>
    cases hzs
    exact .nil
  | cons hy _ ih =>
    cases hzs with
    | cons hz hrest => exact .cons (hR _ _ _ hy hz) (ih hrest)

section
variable {names : List (Json × Json)}

theorem showsAttribute {v : Json} {a b : Attribute} (ha : attributeOf v = .ok a)
    (hb : settledAttribute names a = .ok b) : ShowsAttribute names v b := by
  cases v with
  | object es =>
    cases ha
    obtain ⟨type, htype, rfl⟩ := map_eq_ok.1 hb
    exact ⟨es, rfl, rfl, rfl, showsType htype⟩
  | _ => cases ha

theorem showsParameter {v : Json} {a b : Parameter} (ha : parameterOf v = .ok a)
    (hb : settledParameter names a = .ok b) : ShowsParameter names v b := by
  cases v with
  | object es =>
    cases ha
    obtain ⟨type, htype, rfl⟩ := map_eq_ok.1 hb
    exact ⟨es, rfl, rfl, rfl, showsType htype⟩
  | _ => cases ha

theorem showsOperation {v : Json} {a b : Operation} (ha : operationOf v = .ok a)
    (hb : settledOperation names a = .ok b) : ShowsOperation names v b := by
  cases v with
  | object es =>
    obtain ⟨es', hes, ha⟩ := bind_eq_ok.1 ha
    cases hes
    obtain ⟨xs, hxs, ha⟩ := bind_eq_ok.1 ha
    obtain ⟨parameters, hparameters, ha⟩ := bind_eq_ok.1 ha
    cases ha
    obtain ⟨settled, hsettled, rfl⟩ := map_eq_ok.1 hb
    refine ⟨es, rfl, rfl, rfl, rfl, ?_⟩
    have hread := forall₂_of_items (fun s y => by rintro ⟨⟩) hxs hparameters
    exact forall₂_of_settled (fun _ _ _ => showsParameter) hread hsettled
  | _ => cases ha

theorem showsLiteral {v l : Json} (h : literalOf v = .ok l) : ShowsLiteral v l := by
  cases v with
  | object es =>
    cases h
    exact ⟨es, rfl, rfl⟩
  | _ => cases h

theorem showsShape {es : Entries} {a b : Shape} (ha : shapeOf (typeOf es) es = .ok a)
    (hb : settledShape names a = .ok b) : ShowsShape names (typeOf es) es b := by
  unfold shapeOf at ha
  split at ha
  · rename_i hpackage
    obtain ⟨type, hmem, htype⟩ := isPackageType_iff.1 hpackage
    cases ha
    cases hb
    exact .package htype hmem
  · rename_i hpackage
    split at ha
    · rename_i hclass
      obtain ⟨xs, hxs, ha⟩ := bind_eq_ok.1 ha
      obtain ⟨attributes, hattributes, ha⟩ := bind_eq_ok.1 ha
      obtain ⟨os, hos, ha⟩ := bind_eq_ok.1 ha
      obtain ⟨operations, hoperations, ha⟩ := bind_eq_ok.1 ha
      cases ha
      obtain ⟨attributes', hattributes', hb⟩ := bind_eq_ok.1 hb
      obtain ⟨operations', hoperations', hb⟩ := bind_eq_ok.1 hb
      cases hb
      have htype : typeOf es = .text (if (typeOf es).equals (.text "UMLInterface") then
          "UMLInterface" else "UMLClass") := by
        split
        · exact equals_text.1 ‹_›
        · simpa [*, equals_text] using hclass
      refine .classifier htype ?_ ?_
      · have hread := forall₂_of_items (fun s y => by rintro ⟨⟩) hxs hattributes
        exact forall₂_of_settled (fun _ _ _ => showsAttribute) hread hattributes'
      · have hread := forall₂_of_items (fun s y => by rintro ⟨⟩) hos hoperations
        exact forall₂_of_settled (fun _ _ _ => showsOperation) hread hoperations'
    · rename_i hclass
      split at ha
      · rename_i henumeration
        obtain ⟨xs, hxs, ha⟩ := bind_eq_ok.1 ha
        obtain ⟨literals, hliterals, ha⟩ := bind_eq_ok.1 ha
        cases ha
        cases hb
        refine .enumeration (equals_text.1 henumeration) ?_
        have hread := forall₂_of_items (fun s y => by rintro ⟨⟩) hxs hliterals
        exact hread.imp fun _ _ => showsLiteral
      · rename_i henumeration
        cases ha
        cases hb
        refine .other fun type hmem htype => ?_
        rcases List.mem_append.1 hmem with hmem | hmem
        · exact hpackage (isPackageType_iff.2 ⟨type, hmem, htype⟩)
        · simp_all [Json.equals]

end

/-! How the parts of a document are read. -/

section
variable {es : Entries} {p p' : Progress}

/-- An id is the written one or the next number. -/
theorem of_elementId {i : Item} {id : Json} (h : (elementId i.entries).run p = .ok (id, p')) :
    p'.edges = p.edges ∧
      (i.hasId = true ∧ id = member i.entries "_id" ∧ p'.generated = p.generated ∨
        i.hasId = false ∧ id = generatedId (p.generated + 1) ∧
          p'.generated = p.generated + 1) := by
  unfold elementId at h
  dsimp only at h
  cases hid : (member i.entries "_id").truthy
  · rw [hid] at h
    cases h
    exact ⟨rfl, .inr ⟨hid, rfl, rfl⟩⟩
  · rw [hid] at h
    obtain ⟨rfl, rfl⟩ := run_pure_eq_ok.1 h
    exact ⟨rfl, .inl ⟨hid, rfl, rfl⟩⟩

theorem ownedIn_eq (es : Entries) : ownedIn es =
    match Keyed.get? "ownedElements" es with
    | some v => ownedOf v
    | none => pure [] := by
  induction es with
  | nil => rw [ownedIn]; rfl
  | cons e r ih =>
    obtain ⟨k, v⟩ := e
    rw [ownedIn, Keyed.get?]
    by_cases h : k = "ownedElements"
    · rw [if_pos h, if_pos h]
    · rw [if_neg h, if_neg h, ih]

/-- Owned elements are read from a list. -/
theorem of_ownedIn {owned : List Element} (h : (ownedIn es).run p = .ok (owned, p')) :
    (ownedFrom (listOf es "ownedElements")).run p = .ok (owned, p') := by
  rw [ownedIn_eq] at h
  unfold listOf Json.memberD
  cases hv : Keyed.get? "ownedElements" es with
  | none =>
    rw [hv] at h
    exact h
  | some v =>
    rw [hv] at h
    cases v with
    | list xs => exact h
    | _ =>
      change (ownedOf _).run p = _ at h
      rw [ownedOf] at h
      · obtain ⟨xs, p₁, hxs, h⟩ := run_bind_eq_ok.1 h
        obtain ⟨-, rfl⟩ := run_lift_eq_ok.1 hxs
        cases xs with
        | nil => exact h
        | cons x r => cases h
      · simp

theorem eq_of_asKey {v w : Json} (h : v.asKey = .ok w) : w = v := by
  unfold Json.asKey at h
  split at h
  · exact (Except.ok.inj h).symm
  · cases h

/-- An element is read id first, then its type, its shape and what it owns. -/
theorem of_element {e : Element} (h : (element (.object es)).run p = .ok (e, p')) :
    ∃ id p₁ shape owned, (elementId es).run p = .ok (id, p₁) ∧
      shapeOf (typeOf es) es = .ok shape ∧
      (if isEnumeration (typeOf es) then owned = [] ∧ p' = p₁
        else (ownedIn es).run p₁ = .ok (owned, p')) ∧
      e = .node ⟨id, nameOf es, (member es "documentation").orElse (.text "")⟩ shape owned := by
  rw [element] at h
  obtain ⟨id, p₁, hid, htyped⟩ := run_bind_eq_ok.1 h
  obtain ⟨type, p₂, htype, hshaped⟩ := run_bind_eq_ok.1 htyped
  obtain ⟨hkey, rfl⟩ := run_lift_eq_ok.1 htype
  obtain rfl := eq_of_asKey hkey
  dsimp only at hshaped
  obtain ⟨shape, p₃, hread, hrest⟩ := run_bind_eq_ok.1 hshaped
  obtain ⟨hshape, rfl⟩ := run_lift_eq_ok.1 hread
  refine ⟨id, p₃, shape, ?_⟩
  split at hrest
  · obtain ⟨owned, p₄, howned, hnode⟩ := run_bind_eq_ok.1 hrest
    obtain ⟨rfl, rfl⟩ := run_pure_eq_ok.1 howned
    obtain ⟨rfl, rfl⟩ := run_pure_eq_ok.1 hnode
    exact ⟨[], hid, hshape, by simp [*], rfl⟩
  · obtain ⟨owned, p₄, howned, hnode⟩ := run_bind_eq_ok.1 hrest
    obtain ⟨rfl, rfl⟩ := run_pure_eq_ok.1 hnode
    exact ⟨owned, hid, hshape, by simp [*], rfl⟩

/-- Each owned object is an edge or is read as an element. -/
theorem of_ownedFrom_cons {x : Json} {r : List Json} {owned : List Element}
    (h : (ownedFrom (x :: r)).run p = .ok (owned, p')) :
    ∃ es, x = .object es ∧
      ((∃ kind, edgeKind? (typeOf es) = some kind ∧ (ownedFrom r).run { p with
          edges := p.edges ++ [⟨reference (member es "source"), reference (member es "target"),
            kind⟩] } = .ok (owned, p')) ∨
        edgeKind? (typeOf es) = none ∧ ∃ first p₁ rest,
          (element x).run p = .ok (first, p₁) ∧ (ownedFrom r).run p₁ = .ok (rest, p') ∧
            owned = first :: rest) := by
  rw [ownedFrom] at h
  obtain ⟨es, p₁, hread, htyped⟩ := run_bind_eq_ok.1 h
  obtain ⟨hobject, rfl⟩ := run_lift_eq_ok.1 hread
  obtain ⟨type, p₂, htype, hmatch⟩ := run_bind_eq_ok.1 htyped
  obtain ⟨hkey, rfl⟩ := run_lift_eq_ok.1 htype
  obtain rfl := eq_of_asKey hkey
  cases x with
  | object fs =>
    cases hobject
    refine ⟨es, rfl, ?_⟩
    cases hkind : edgeKind? (typeOf es) with
    | some kind =>
      rw [hkind] at hmatch
      obtain ⟨u, p₃, hmodify, hrest⟩ := run_bind_eq_ok.1 hmatch
      cases hmodify
      exact .inl ⟨kind, rfl, hrest⟩
    | none =>
      rw [hkind] at hmatch
      obtain ⟨first, p₃, hfirst, hmore⟩ := run_bind_eq_ok.1 hmatch
      obtain ⟨rest, p₄, hrest, hcons⟩ := run_bind_eq_ok.1 hmore
      obtain ⟨rfl, rfl⟩ := run_pure_eq_ok.1 hcons
      exact .inr ⟨rfl, first, p₃, rest, hfirst, hrest, rfl⟩
  | _ => cases hobject

end

structure Agrees (names : List (Json × Json)) (pairs : List (Item × Spot)) (items : List Item)
    (spots : List Spot) (p p' : Progress) : Prop where
  elements : pairs.map (·.1) = items.filter (·.isElement)
  places : pairs.map (·.2) = spots
  edges : p'.edges = p.edges ++ items.filterMap (·.edge?)
  ids : spots.map (·.element.id) = idsFrom p.generated (pairs.map (·.1))
  generated : p'.generated = p.generated + (pairs.map (·.1)).countP fun i => !i.hasId
  shows : ∀ q ∈ pairs, Shows names q.1.entries q.2.element
  owned : ∀ q ∈ pairs, List.Forall₂ (fun i s => (i, s) ∈ pairs)
    (q.1.owned.filter (·.isElement)) q.2.owned

namespace Agrees
variable {names : List (Json × Json)} {pairs pairs' : List (Item × Spot)} {items items' : List Item}
  {spots spots' : List Spot} {p p₁ p' : Progress}

theorem nil (names : List (Json × Json)) (p : Progress) : Agrees names [] [] [] p p where
  elements := rfl
  places := rfl
  edges := by simp
  ids := rfl
  generated := rfl
  shows := by simp
  owned := by simp

theorem append (h : Agrees names pairs items spots p p₁)
    (h' : Agrees names pairs' items' spots' p₁ p') :
    Agrees names (pairs ++ pairs') (items ++ items') (spots ++ spots') p p' where
  elements := by rw [List.map_append, h.elements, h'.elements, List.filter_append]
  places := by rw [List.map_append, h.places, h'.places]
  edges := by rw [h'.edges, h.edges, List.filterMap_append, List.append_assoc]
  ids := by rw [List.map_append, List.map_append, h.ids, h'.ids, idsFrom_append, h.generated]
  generated := by
    rw [h'.generated, h.generated, List.map_append, List.countP_append, Nat.add_assoc]
  shows q hq := (List.mem_append.1 hq).elim (h.shows q) (h'.shows q)
  owned q hq := by
    rcases List.mem_append.1 hq with hq | hq
    · exact (h.owned q hq).imp fun _ _ => List.mem_append_left _
    · exact (h'.owned q hq).imp fun _ _ => List.mem_append_right _

/-- An inheritance is an edge and no element. -/
theorem edge {i : Item} {e : Edge} (he : i.edge? = some e) :
    Agrees names [] i.outline [] p { p with edges := p.edges ++ [e] } where
  elements := by simp [Item.outline_of_edge he, Item.isElement, he]
  places := rfl
  edges := by simp [Item.outline_of_edge he, he]
  ids := rfl
  generated := rfl
  shows := by simp
  owned := by simp

/-- An element comes before all that is listed below it. -/
theorem cons {i : Item} {t : Spot} (hi : i.isElement = true)
    (hshows : Shows names i.entries t.element)
    (hid : (elementId i.entries).run p = .ok (t.element.id, p₁))
    (h : Agrees names pairs items spots p₁ p')
    (howned : List.Forall₂ (fun i s => (i, s) ∈ pairs) (i.owned.filter (·.isElement)) t.owned) :
    Agrees names ((i, t) :: pairs) (i :: items) (t :: spots) p p' where
  elements := by rw [List.map_cons, List.filter_cons_of_pos hi, h.elements]
  places := by rw [List.map_cons, h.places]
  edges := by
    have hnone : i.edge? = none := by simpa [Item.isElement] using hi
    rw [List.filterMap_cons_none hnone, h.edges, (of_elementId hid).1]
  ids := by
    rw [List.map_cons, List.map_cons, h.ids, idsFrom]
    rcases (of_elementId hid).2 with ⟨hwritten, hid, hnumber⟩ | ⟨hwritten, hid, hnumber⟩ <;>
      simp [hwritten, hid, hnumber, member_eq]
  generated := by
    rw [List.map_cons, List.countP_cons, h.generated]
    rcases (of_elementId hid).2 with ⟨hwritten, -, hnumber⟩ | ⟨hwritten, -, hnumber⟩
    · simp [hwritten, hnumber]
    · simp [hwritten, hnumber]
      omega
  shows q hq := by
    rcases List.mem_cons.1 hq with rfl | hq
    · exact hshows
    · exact h.shows q hq
  owned q hq := by
    rcases List.mem_cons.1 hq with rfl | hq
    · exact howned.imp fun _ _ => List.mem_cons_of_mem _
    · exact (h.owned q hq).imp fun _ _ => List.mem_cons_of_mem _

end Agrees

def Item.Converts (names : List (Json × Json)) (i : Item) : Prop :=
  ∀ {e e' : Element} {p p' : Progress} (place : List Nat), i.isElement = true →
    (element (.object i.entries)).run p = .ok (e, p') → settled names e = .ok e' →
    ∃ pairs, Agrees names ((i, ⟨place, e'⟩) :: pairs) i.outline (Spot.tree ⟨place, e'⟩) p p'

section
variable {names : List (Json × Json)}

/-- The objects of a list agree with the elements that are read from them, if each
of them does. -/
theorem agrees_ownedFrom {steps place : List Nat} {n k : Nat} {xs : List Json}
    {owned owned' : List Element} {p p' : Progress}
    (hconverts : ∀ c ∈ itemsBelow steps n xs, c.Converts names)
    (howned : (ownedFrom xs).run p = .ok (owned, p'))
    (hsettled : settledOwned names owned = .ok owned') :
    ∃ pairs, Agrees names pairs ((itemsBelow steps n xs).flatMap Item.outline)
        ((spotsBelow place k owned').flatMap Spot.tree) p p' ∧
      List.Forall₂ (fun i s => (i, s) ∈ pairs) ((itemsBelow steps n xs).filter (·.isElement))
        (spotsBelow place k owned') := by
  induction xs generalizing n k owned owned' p with
  | nil =>
    rw [ownedFrom] at howned
    obtain ⟨rfl, rfl⟩ := run_pure_eq_ok.1 howned
    cases hsettled
    exact ⟨[], .nil names _, .nil⟩
  | cons x r ih =>
    obtain ⟨es, rfl, ⟨kind, hkind, hrest⟩ | ⟨hkind, first, p₁, rest, hfirst, hrest, rfl⟩⟩ :=
      of_ownedFrom_cons howned
    · -- The edge is recorded and takes no place among the elements.
      obtain ⟨pairs, hagrees, hpairs⟩ :=
        ih (fun c hc => hconverts c (List.mem_cons_of_mem _ hc)) hrest hsettled
      have hedge : (⟨n :: steps, es⟩ : Item).edge? =
          some ⟨reference (member es "source"), reference (member es "target"), kind⟩ := by
        rw [edge?_below, hkind]
        rfl
      refine ⟨pairs, ?_, ?_⟩
      · exact (Agrees.edge hedge).append hagrees
      · rwa [itemsBelow, List.filter_cons_of_neg (by simp [Item.isElement, hedge])]
    · obtain ⟨first', hfirst', hsettled⟩ := bind_eq_ok.1 hsettled
      obtain ⟨rest', hrest', hsettled⟩ := bind_eq_ok.1 hsettled
      cases hsettled
      have helement : (⟨n :: steps, es⟩ : Item).isElement = true := by
        rw [Item.isElement, edge?_below, hkind]
        rfl
      obtain ⟨below, hbelow⟩ :=
        hconverts _ List.mem_cons_self (k :: place) helement hfirst hfirst'
      obtain ⟨pairs, hagrees, hpairs⟩ :=
        ih (k := k + 1) (fun c hc => hconverts c (List.mem_cons_of_mem _ hc)) hrest hrest'
      refine ⟨_, hbelow.append hagrees, ?_⟩
      rw [itemsBelow, List.filter_cons_of_pos helement, spotsBelow]
      exact .cons (by simp) (hpairs.imp fun _ _ => List.mem_append_right _)

theorem converts (i : Item) : i.Converts names := by
  induction i using Item.inductionOn with
  | step i ih =>
    intro e e' p p' place hi he hsettled
    obtain ⟨id, p₁, shape, owned, hid, hshape, howned, rfl⟩ := of_element he
    obtain ⟨shape', hshape', hsettled⟩ := bind_eq_ok.1 hsettled
    obtain ⟨owned', howned', hsettled⟩ := bind_eq_ok.1 hsettled
    cases hsettled
    have hshows := showsShape hshape hshape'
    have htype : i.type.equals (.text "UMLEnumeration") = isEnumeration (typeOf i.entries) := rfl
    -- Nothing is read below an enumeration, and nothing is listed there.
    obtain ⟨pairs, hagrees, hpairs⟩ : ∃ pairs, Agrees names pairs (i.owned.flatMap Item.outline)
        ((spotsBelow place 0 owned').flatMap Spot.tree) p₁ p' ∧
        List.Forall₂ (fun i s => (i, s) ∈ pairs) (i.owned.filter (·.isElement))
          (spotsBelow place 0 owned') := by
      unfold Item.owned at ih ⊢
      rw [htype] at ih ⊢
      split at howned
      · rename_i henumeration
        obtain ⟨rfl, rfl⟩ := howned
        cases howned'
        rw [henumeration, Bool.not_true, Bool.and_false]
        exact ⟨[], .nil names _, .nil⟩
      · rename_i henumeration
        rw [if_pos (by simp [hi, henumeration])] at ih ⊢
        exact agrees_ownedFrom ih (of_ownedIn howned) howned'
    rw [Item.outline_eq, Spot.tree_eq]
    exact ⟨pairs, .cons hi ⟨rfl, rfl, hshows⟩ hid hagrees hpairs⟩

theorem isPackage_of_settledShape {a b : Shape} {facts : Facts} {owned owned' : List Element}
    (h : settledShape names a = .ok b) :
    (Element.node facts b owned').isPackage = (Element.node facts a owned).isPackage := by
  cases a with
  | classifier isInterface attributes operations =>
    obtain ⟨attributes', -, h⟩ := bind_eq_ok.1 h
    obtain ⟨operations', -, h⟩ := bind_eq_ok.1 h
    cases h
    rfl
  | _ =>
    cases h
    rfl

/-- An element is settled inside the package that it is put into. -/
theorem of_settled_wrapped {e root : Element} (h : settled names (wrapped e) = .ok root) :
    ∃ e', settled names e = .ok e' ∧ root = wrapped e' := by
  obtain ⟨facts, shape, owned⟩ := e
  unfold wrapped at h
  split at h
  · rename_i hpackage
    obtain ⟨shape', hshape, hbind⟩ := bind_eq_ok.1 h
    obtain ⟨owned', howned, hroot⟩ := bind_eq_ok.1 hbind
    cases hroot
    refine ⟨_, h, ?_⟩
    rw [wrapped, isPackage_of_settledShape hshape, if_pos hpackage]
  · rename_i hpackage
    obtain ⟨shape', hshape, h⟩ := bind_eq_ok.1 h
    cases hshape
    obtain ⟨owned', howned, h⟩ := bind_eq_ok.1 h
    cases h
    obtain ⟨e', he, howned⟩ := bind_eq_ok.1 howned
    obtain ⟨rest, hrest, howned⟩ := bind_eq_ok.1 howned
    cases hrest
    cases howned
    refine ⟨e', he, ?_⟩
    obtain ⟨shape', hshape, he⟩ := bind_eq_ok.1 he
    obtain ⟨owned', howned, he⟩ := bind_eq_ok.1 he
    cases he
    rw [wrapped, isPackage_of_settledShape hshape, if_neg hpackage]
    rfl

end

/-- A top element is the root or the one element just below the root. -/
theorem exists_top (e : Element) : ∃ top : Spot, top.element = e ∧
    (Snapshot.rootSpot (wrapped e)).tree =
      (if e.isPackage then [] else [Snapshot.rootSpot (wrapped e)]) ++ top.tree := by
  rw [wrapped]
  cases hpackage : e.isPackage with
  | true => exact ⟨⟨[], e⟩, rfl, rfl⟩
  | false =>
    refine ⟨⟨[0], e⟩, rfl, ?_⟩
    rw [Spot.tree_eq]
    simp [Snapshot.rootSpot, Spot.owned, Element.owned, spotsBelow]

theorem read_eq_ok {document : Json} {s : Snapshot} (h : read document = .ok s) :
    ∃ es names e progress root, document = .object es ∧ namesIn document = .ok names ∧
      (element document).run {} = .ok (e, progress) ∧ settled names (wrapped e) = .ok root ∧
      Snapshot.make root progress.edges = .ok s := by
  cases document with
  | object es =>
    have hs : toSnapshot es = .ok s := mapError_eq_ok.1 h
    obtain ⟨names, hnames, hs⟩ := bind_eq_ok.1 hs
    obtain ⟨⟨e, progress⟩, he, hs⟩ := bind_eq_ok.1 hs
    obtain ⟨root, hroot, hs⟩ := bind_eq_ok.1 hs
    exact ⟨es, names, e, progress, root, rfl, hnames, he, hroot, hs⟩
  | _ => cases h

theorem eq_of_make {root : Element} {edges : List Edge} {s : Snapshot}
    (h : Snapshot.make root edges = .ok s) : s = ⟨root, edges, Snapshot.rootSpot root⟩ := by
  unfold Snapshot.make at h
  split at h <;> cases h
  rfl

/-- All that is read from a document, with the top element's spot. -/
theorem exists_agrees {document : Json} {s : Snapshot} (h : read document = .ok s) :
    ∃ es names top pairs progress, document = .object es ∧ namesIn document = .ok names ∧
      s = ⟨wrapped top.element, progress.edges, Snapshot.rootSpot (wrapped top.element)⟩ ∧
      s.Hashable ∧ s.index.map (·.spot) =
        (if top.element.isPackage then [] else [Snapshot.rootSpot s.root]) ++ top.tree ∧
      Agrees names ((Item.top es, top) :: pairs) (Item.top es).outline top.tree {} progress := by
  obtain ⟨es, names, e, progress, root, rfl, hnames, he, hroot, hs⟩ := read_eq_ok h
  obtain ⟨e', he', rfl⟩ := of_settled_wrapped hroot
  have hhashable := Snapshot.hashable_of_make hs
  obtain rfl := eq_of_make hs
  obtain ⟨⟨place, top⟩, rfl, htree⟩ := exists_top e'
  obtain ⟨pairs, hagrees⟩ := converts (Item.top es) place rfl he he'
  exact ⟨es, names, ⟨place, top⟩, pairs, progress, rfl, hnames, rfl, hhashable,
    (Snapshot.index_spots _).trans htree, hagrees⟩

/-- A snapshot that is read has what the outline of its document lists: the
elements in their order, under the same owners, with their ids and contents, and
the edges in their order. A package is put around a top element that is none. -/
theorem read_keeps_outline {document : Json} {s : Snapshot} (h : read document = .ok s) :
    ∃ es names, document = .object es ∧ namesIn document = .ok names ∧
      s.edges = (Item.top es).outline.filterMap (·.edge?) ∧
      ∃ top : Spot, s.root = wrapped top.element ∧ s.base = Snapshot.rootSpot s.root ∧
        s.index.map (·.spot) =
          (if top.element.isPackage then [] else [Snapshot.rootSpot s.root]) ++ top.tree ∧
        top.tree.map (·.element.id) = idsFrom 0 ((Item.top es).outline.filter (·.isElement)) ∧
        ∃ pairs : List (Item × Spot),
          pairs.map (·.1) = (Item.top es).outline.filter (·.isElement) ∧
          pairs.map (·.2) = top.tree ∧
          ∀ q ∈ pairs, Shows names q.1.entries q.2.element ∧
            List.Forall₂ (fun i t => (i, t) ∈ pairs) (q.1.owned.filter (·.isElement))
              q.2.owned := by
  obtain ⟨es, names, top, pairs, progress, rfl, hnames, rfl, -, hindex, hagrees⟩ := exists_agrees h
  refine ⟨es, names, rfl, hnames, by simpa using hagrees.edges, top, rfl, rfl, hindex, ?_,
    _, hagrees.elements, hagrees.places, fun q hq => ⟨hagrees.shows q hq, hagrees.owned q hq⟩⟩
  rw [hagrees.ids, hagrees.elements]

def parcelSize : Entries := [("_type", .text "UMLEnumeration"), ("name", .text "Size"),
  ("literals", .list [.object [("name", .text "small")]])]

def parcelEdge : Entries := [("_type", .text "UMLGeneralization"),
  ("source", .object [("$ref", .text "label")]), ("target", .text "paper")]

def parcelLabel : Entries := [("_type", .text "UMLClass"), ("_id", .text "label"),
  ("name", .text "Label")]

def parcel : Entries := [("_type", .text "UMLClass"), ("name", .text "Parcel"),
  ("ownedElements", .list [.object parcelSize, .object parcelEdge, .object parcelLabel])]

theorem outline_parcel : (Item.top parcel).outline =
    [Item.top parcel, ⟨[0], parcelSize⟩, ⟨[1], parcelEdge⟩, ⟨[2], parcelLabel⟩] := by
  simp [Item.outline_eq, Item.owned, Item.isElement, Item.edge?, Item.edgeTypes, Item.top, parcel,
    parcelSize, parcelEdge, parcelLabel, Item.type, Json.memberD, Keyed.get?, Json.equals, listOf,
    itemsBelow]

theorem read_keeps_outline_parcel : ∃ s, read (.object parcel) = .ok s ∧
    s.edges = [⟨.text "label", .text "paper", .generalization⟩] ∧
    ∃ top : Spot, s.root = wrapped top.element ∧
      top.tree.map (·.element.name) = [.text "Parcel", .text "Size", .text "Label"] ∧
      top.tree.map (·.element.id) = [generatedId 1, generatedId 2, .text "label"] := by
  have hread : (read (.object parcel)).toOption.isSome = true := by decide +kernel
  obtain ⟨s, hs⟩ : ∃ s, read (.object parcel) = .ok s := by
    cases h : read (.object parcel) with
    | error f => simp [h, Except.toOption] at hread
    | ok s => exact ⟨s, rfl⟩
  obtain ⟨es, names, hes, -, hedges, top, hroot, -, -, hids, pairs, hitems, hspots, hshows⟩ :=
    read_keeps_outline hs
  cases hes
  have hnames : top.tree.map (·.element.name) =
      ((Item.top parcel).outline.filter (·.isElement)).map fun i =>
        Json.memberD i.entries "name" (.text "") := by
    rw [← hspots, ← hitems, List.map_map, List.map_map]
    exact List.map_congr_left fun q hq => (hshows q hq).1.name
  rw [outline_parcel] at hedges hids hnames
  refine ⟨s, hs, ?_, top, hroot, ?_, ?_⟩
  · rw [hedges]
    rfl
  · rw [hnames]
    rfl
  · rw [hids]
    rfl

end UmlPress.Document
