import UmlPress.Proofs.Conversion
import UmlPress.Proofs.Pages
import UmlPress.Proofs.Proper

/-!
# Documents of the right form

In a document of the right form names, ids, types and documentations are texts, and what
can be listed stands in lists of objects. Such a document is always read, and everything in
the snapshot that a page or a message may speak of is a text: one of the document, an empty
one or a number that was given out.
-/
namespace UmlPress

namespace Json

def isObject : Json → Bool
  | .object _ => true
  | _ => false

theorem eq_of_isObject {v : Json} (h : v.isObject = true) : ∃ es, v = .object es := by
  cases v with
  | object es => exact ⟨es, rfl⟩
  | _ => cases h

mutual

def texts : Json → List String
  | .text s => [s]
  | .list items => textsOf items
  | .object entries => textsUnder entries
  | _ => []

def textsOf : List Json → List String
  | [] => []
  | v :: r => v.texts ++ textsOf r

def textsUnder : List (String × Json) → List String
  | [] => []
  | (_, v) :: r => v.texts ++ textsUnder r

end

theorem mem_textsOf {s : String} {vs : List Json} : s ∈ textsOf vs ↔ ∃ v ∈ vs, s ∈ v.texts := by
  induction vs with
  | nil => simp [textsOf]
  | cons v r ih => simp [textsOf, ih]

theorem mem_textsUnder {s : String} {entries : Entries} :
    s ∈ textsUnder entries ↔ ∃ e ∈ entries, s ∈ e.2.texts := by
  induction entries with
  | nil => simp [textsUnder]
  | cons e r ih => simp [textsUnder, ih]

def IsTextOf (P : String → Prop) (v : Json) : Prop := ∃ s, v = .text s ∧ P s

theorem IsTextOf.isText {P : String → Prop} {v : Json} (h : v.IsTextOf P) : v.isText = true := by
  obtain ⟨s, rfl, -⟩ := h
  rfl

theorem IsTextOf.isDoc {P : String → Prop} {v : Json} (h : v.IsTextOf P) : v.isDoc = true := by
  rw [Json.isDoc, h.isText, Bool.or_true]

theorem IsTextOf.mono {P Q : String → Prop} {v : Json} (h : v.IsTextOf P)
    (hmono : ∀ s, P s → Q s) : v.IsTextOf Q := by
  obtain ⟨s, rfl, hs⟩ := h
  exact ⟨s, rfl, hmono s hs⟩

end Json

namespace Document

def textKeys : List String := ["_type", "_id", "name", "documentation", "$ref"]

def listKeys : List String :=
  ["ownedElements", "attributes", "operations", "parameters", "literals"]

def endKeys : List String := ["source", "target"]

def suits (e : String × Json) : Bool :=
  if e.1 ∈ textKeys then e.2.isText
  else if e.1 ∈ listKeys then
    match e.2 with
    | .list items => items.all Json.isObject
    | _ => false
  else if e.1 ∈ endKeys then e.2.isText || e.2.isObject
  else true

def isFormed : Json → Bool
  | .object es => es.all suits
  | _ => true

structure Sound (P : String → Prop) (v : Json) : Prop where
  formed : v.all isFormed = true
  texts : ∀ s ∈ v.texts, P s

variable {P : String → Prop} {es : Entries} {key : String} {v : Json}
  {names : List (Json × Json)}

theorem exists_list_of_suits (hkey : key ∈ listKeys) (h : suits (key, v) = true) :
    ∃ items, v = .list items ∧ ∀ x ∈ items, x.isObject = true := by
  have hno : ∀ key ∈ listKeys, key ∉ textKeys := by decide
  rw [suits, if_neg (hno key hkey), if_pos hkey] at h
  cases v with
  | list items => exact ⟨items, rfl, List.all_eq_true.1 h⟩
  | _ => cases h

namespace Sound

theorem of_mem_list {items : List Json} (h : Sound P (.list items)) {x : Json} (hx : x ∈ items) :
    Sound P x where
  formed := (Json.all_list.1 h.formed).2 x hx
  texts s hs := h.texts s (Json.mem_textsOf.2 ⟨x, hx, hs⟩)

theorem of_mem (h : Sound P (.object es)) {e : String × Json} (he : e ∈ es) :
    suits e = true ∧ Sound P e.2 where
  left := List.all_eq_true.1 (Json.all_object.1 h.formed).1 e he
  right := ⟨(Json.all_object.1 h.formed).2 e he,
    fun s hs => h.texts s (Json.mem_textsUnder.2 ⟨e, he, hs⟩)⟩

/-- What stands under the key of a text is a text, or nothing stands there. -/
theorem textAt (h : Sound P (.object es)) (hkey : key ∈ textKeys) :
    Keyed.get? key es = none ∨ ∃ s, Keyed.get? key es = some (.text s) ∧ P s := by
  cases hv : Keyed.get? key es with
  | none => exact .inl rfl
  | some v =>
    obtain ⟨hsuits, hsound⟩ := h.of_mem (Keyed.mem_of_get? hv)
    rw [suits, if_pos hkey] at hsuits
    obtain ⟨s, rfl⟩ := Json.eq_of_isText hsuits
    exact .inr ⟨s, rfl, hsound.texts s List.mem_cons_self⟩

theorem memberD_text (h : Sound P (.object es)) (hkey : key ∈ textKeys) {default : String}
    (hdefault : P default) : (Json.memberD es key (.text default)).IsTextOf P := by
  unfold Json.memberD
  obtain hnone | ⟨s, hs, hp⟩ := h.textAt hkey
  · exact ⟨default, by rw [hnone]; rfl, hdefault⟩
  · exact ⟨s, by rw [hs]; rfl, hp⟩

theorem listAt (h : Sound P (.object es)) (hkey : key ∈ listKeys)
    (hv : Keyed.get? key es = some v) :
    ∃ items, v = .list items ∧ ∀ x ∈ items, Sound P x ∧ x.isObject = true := by
  obtain ⟨hsuits, hsound⟩ := h.of_mem (Keyed.mem_of_get? hv)
  obtain ⟨items, rfl, hitems⟩ := exists_list_of_suits hkey hsuits
  exact ⟨items, rfl, fun x hx => ⟨hsound.of_mem_list hx, hitems x hx⟩⟩

theorem exists_items (h : Sound P (.object es)) (hkey : key ∈ listKeys) :
    ∃ items, itemsOf (member es key) = .ok items ∧
      ∀ x ∈ items, Sound P x ∧ x.isObject = true := by
  unfold member Json.memberD
  cases hv : Keyed.get? key es with
  | none => exact ⟨[], rfl, nofun⟩
  | some v =>
    obtain ⟨items, rfl, hitems⟩ := h.listAt hkey hv
    refine ⟨items, ?_, hitems⟩
    cases items <;> rfl

theorem doc (h : Sound P (.object es)) (hempty : P "") :
    ((member es "documentation").orElse (.text "")).IsTextOf P := by
  unfold member Json.memberD
  obtain hnone | ⟨s, hs, hp⟩ := h.textAt (by decide : "documentation" ∈ textKeys)
  · exact ⟨"", by rw [hnone]; rfl, hempty⟩
  · rw [hs]
    by_cases hs' : s = ""
    · exact ⟨"", by rw [hs']; rfl, hempty⟩
    · exact ⟨s, by simp [Json.orElse, Json.truthy, hs'], hp⟩

theorem reference (h : Sound P (.object es)) (hkey : key ∈ endKeys) (hempty : P "") :
    (reference (member es key)).IsTextOf P := by
  unfold member Json.memberD
  cases hv : Keyed.get? key es with
  | none => exact ⟨"", rfl, hempty⟩
  | some v =>
    obtain ⟨hsuits, hsound⟩ := h.of_mem (Keyed.mem_of_get? hv)
    have hno : ∀ key ∈ endKeys, key ∉ textKeys ∧ key ∉ listKeys := by decide
    rw [suits, if_neg (hno key hkey).1, if_neg (hno key hkey).2, if_pos hkey] at hsuits
    cases v with
    | object fs => exact hsound.memberD_text (by decide) hempty
    | text s =>
      by_cases hs : s = ""
      · subst hs
        exact ⟨"", rfl, hempty⟩
      · refine ⟨s, ?_, hsound.texts s List.mem_cons_self⟩
        simp [Document.reference, Json.orElse, Json.truthy, hs, Json.display]
    | _ => cases hsuits

end Sound
end Document

def Shape.Speaks (Q : String → Prop) : Shape → Prop
  | .classifier _ attributes operations =>
    (∀ a ∈ attributes, a.name.IsTextOf Q ∧ a.type.IsTextOf Q) ∧
      ∀ o ∈ operations, o.name.IsTextOf Q ∧ o.doc.IsTextOf Q ∧
        ∀ p ∈ o.parameters, p.name.IsTextOf Q
  | .enumeration literals => ∀ l ∈ literals, l.IsTextOf Q
  | _ => True

def Shape.isPlain : Shape → Bool
  | .classifier _ attributes operations =>
    (attributes.all fun a => a.name.isText && a.type.isText) &&
      operations.all fun o =>
        o.name.isText && o.doc.isDoc && o.parameters.all fun p => p.name.isText
  | _ => true

inductive Element.Spoken (P Q : String → Prop) : Element → Prop
  | node {facts : Facts} {shape : Shape} {owned : List Element} : facts.id.IsTextOf P →
    facts.name.IsTextOf P → facts.doc.IsTextOf Q → shape.Speaks Q →
    (∀ e ∈ owned, Element.Spoken P Q e) → Element.Spoken P Q (.node facts shape owned)

namespace Document
variable {P Q : String → Prop} {es : Entries} {v : Json} {names : List (Json × Json)}

/-- Texts of one kind may be used for those of another, which all that is quoted is of. The
texts that need not stand in a document are of both. -/
structure Grounds (P Q : String → Prop) : Prop where
  empty : P ""
  numbered : ∀ n : Nat, P s!"_generated_{n}"
  weaker : ∀ s, P s → Q s
  quoted : ∀ v : Json, Q v.quoted

theorem asKey_of_isText (h : v.isText = true) : v.asKey = .ok v := by
  obtain ⟨s, rfl⟩ := Json.eq_of_isText h
  rfl

theorem Sound.member (h : Sound P (.object es)) (key : String) (hempty : P "") :
    Sound P (Json.memberD es key (.text "")) := by
  unfold Json.memberD
  cases hv : Keyed.get? key es with
  | none => exact ⟨rfl, List.forall_mem_singleton.2 hempty⟩
  | some v => exact (h.of_mem (Keyed.mem_of_get? hv)).2

section
variable (hg : Grounds P Q) (hnames : ∀ n ∈ names, n.2.IsTextOf P)
include hg

theorem isTextOf_orElse (h : Sound P v) : Q (v.orElse (.text "")).display := by
  unfold Json.orElse
  split
  · cases v with
    | text s => exact hg.weaker s (h.texts s List.mem_cons_self)
    | _ => exact hg.quoted _
  · exact hg.weaker "" hg.empty

include hnames

theorem isTextOf_nameFor? (id : Json) : ((nameFor? names id).getD (.text "")).IsTextOf P := by
  unfold nameFor?
  cases hfind : names.reverse.find? fun n => n.1.sameKey id with
  | none => exact ⟨"", rfl, hg.empty⟩
  | some n => exact hnames n (List.mem_reverse.1 (List.mem_of_find?_eq_some hfind))

theorem exists_settledType (h : Sound P v) :
    ∃ t, settledType names v = .ok t ∧ t.IsTextOf Q := by
  cases v with
  | object fs =>
    rw [settledType]
    split
    · rename_i htruthy
      obtain hnone | ⟨s, hs, -⟩ := h.textAt (by decide : "$ref" ∈ textKeys)
      · rw [member, Json.memberD, hnone] at htruthy
        cases htruthy
      · rw [member, Json.memberD, hs]
        exact ⟨_, rfl, (isTextOf_nameFor? hg hnames _).mono hg.weaker⟩
    · exact ⟨_, rfl, "", rfl, hg.weaker "" hg.empty⟩
  | _ => exact ⟨_, rfl, _, rfl, isTextOf_orElse hg h⟩

theorem exists_attribute (h : Sound P v) (hv : v.isObject = true) :
    ∃ a b, attributeOf v = .ok a ∧ settledAttribute names a = .ok b ∧
      b.name.IsTextOf Q ∧ b.type.IsTextOf Q := by
  cases v with
  | object fs =>
    obtain ⟨t, ht, htext⟩ := exists_settledType hg hnames (h.member "type" hg.empty)
    refine ⟨_, _, rfl, map_eq_ok.2 ⟨t, ht, rfl⟩, ?_, htext⟩
    exact (h.memberD_text (by decide) hg.empty).mono hg.weaker
  | _ => cases hv

theorem exists_parameter (h : Sound P v) (hv : v.isObject = true) :
    ∃ a b, parameterOf v = .ok a ∧ settledParameter names a = .ok b ∧ b.name.IsTextOf Q := by
  cases v with
  | object fs =>
    obtain ⟨t, ht, -⟩ := exists_settledType hg hnames (h.member "type" hg.empty)
    refine ⟨_, _, rfl, map_eq_ok.2 ⟨t, ht, rfl⟩, ?_⟩
    exact (h.memberD_text (by decide) hg.empty).mono hg.weaker
  | _ => cases hv

omit hg hnames in
/-- What is read one by one, and settled one by one after that. -/
theorem exists_settled {α : Type} {f : Json → Except Misuse α} {g : α → Except Misuse α}
    {R : α → Prop} {items : List Json}
    (h : ∀ x ∈ items, ∃ a b, f x = .ok a ∧ g a = .ok b ∧ R b) :
    ∃ as bs, items.mapM f = .ok as ∧ as.mapM g = .ok bs ∧ ∀ b ∈ bs, R b := by
  have hread : ∀ x ∈ items, ∃ a, f x = .ok a ∧ ∃ b, g a = .ok b ∧ R b := by
    intro x hx
    obtain ⟨a, b, ha, hb, hr⟩ := h x hx
    exact ⟨a, ha, b, hb, hr⟩
  obtain ⟨as, has, hall⟩ := exists_mapM hread
  obtain ⟨bs, hbs, hr⟩ := exists_mapM hall
  exact ⟨as, bs, has, hbs, hr⟩

theorem exists_operation (h : Sound P v) (hv : v.isObject = true) :
    ∃ a b, operationOf v = .ok a ∧ settledOperation names a = .ok b ∧ b.name.IsTextOf Q ∧
      b.doc.IsTextOf Q ∧ ∀ p ∈ b.parameters, p.name.IsTextOf Q := by
  cases v with
  | object fs =>
    obtain ⟨items, hitems, hall⟩ := h.exists_items (by decide : "parameters" ∈ listKeys)
    obtain ⟨as, bs, has, hbs, htexts⟩ := exists_settled fun x hx =>
      exists_parameter hg hnames (hall x hx).1 (hall x hx).2
    let o : Operation :=
      ⟨nameOf fs, (member fs "documentation").orElse (.text ""), (member fs "isStatic").truthy, as⟩
    have hread : operationOf (.object fs) = .ok o := by
      simp only [operationOf, asObject, bind, Except.bind, hitems, has]
      rfl
    refine ⟨o, { o with parameters := bs }, hread, map_eq_ok.2 ⟨bs, hbs, rfl⟩, ?_,
      (h.doc hg.empty).mono hg.weaker, htexts⟩
    exact (h.memberD_text (by decide) hg.empty).mono hg.weaker
  | _ => cases hv

theorem exists_shape (h : Sound P (.object es)) : ∃ a b, shapeOf (typeOf es) es = .ok a ∧
    settledShape names a = .ok b ∧ b.Speaks Q := by
  unfold shapeOf
  split
  · exact ⟨_, _, rfl, rfl, trivial⟩
  · split
    · obtain ⟨xs, hxs, hattributes⟩ := h.exists_items (by decide : "attributes" ∈ listKeys)
      obtain ⟨as, as', has, has', hspeak⟩ := exists_settled fun x hx =>
        exists_attribute hg hnames (hattributes x hx).1 (hattributes x hx).2
      obtain ⟨ys, hys, hoperations⟩ := h.exists_items (by decide : "operations" ∈ listKeys)
      obtain ⟨os, os', hos, hos', hspeak'⟩ := exists_settled fun x hx =>
        exists_operation hg hnames (hoperations x hx).1 (hoperations x hx).2
      let isInterface := (typeOf es).equals (.text "UMLInterface")
      refine ⟨.classifier isInterface as os, .classifier isInterface as' os', ?_, ?_,
        hspeak, hspeak'⟩
      · simp only [bind, Except.bind, hxs, has, hys, hos]
        rfl
      · simp only [settledShape, bind, Except.bind, has', hos']
        rfl
    · split
      · obtain ⟨xs, hxs, hliterals⟩ := h.exists_items (by decide : "literals" ∈ listKeys)
        obtain ⟨ls, hls, hspeak⟩ := exists_mapM (f := literalOf) fun x hx => by
          obtain ⟨hsound, hobject⟩ := hliterals x hx
          obtain ⟨fs, rfl⟩ := Json.eq_of_isObject hobject
          exact ⟨_, rfl, (hsound.memberD_text (by decide) hg.empty).mono hg.weaker⟩
        refine ⟨.enumeration ls, .enumeration ls, ?_, rfl, hspeak⟩
        simp only [bind, Except.bind, hxs, hls]
        rfl
      · exact ⟨_, _, rfl, rfl, trivial⟩

end

theorem exists_ownName (hempty : P "") (h : Sound P (.object es)) :
    ∃ ns, ownName es = .ok ns ∧ ∀ n ∈ ns, n.2.IsTextOf P := by
  unfold ownName
  obtain hnone | ⟨s, hs, -⟩ := h.textAt (by decide : "_id" ∈ textKeys)
  · rw [hnone]
    exact ⟨[], rfl, nofun⟩
  · rw [hs]
    exact ⟨_, rfl, List.forall_mem_singleton.2 (h.memberD_text (by decide) hempty)⟩

mutual

/-- Names are collected from every object, and all of them are texts. -/
theorem exists_namesIn (hempty : P "") : ∀ v : Json, Sound P v →
    ∃ ns, namesIn v = .ok ns ∧ ∀ n ∈ ns, n.2.IsTextOf P
  | .object es, h => by
    obtain ⟨own, howned, htexts⟩ := exists_ownName hempty h
    have hunder (key : String) (hkey : key ∈ listKeys) :=
      exists_namesUnder hempty hkey es fun e he => h.of_mem he
    obtain ⟨ls, hls, hltexts⟩ := hunder "literals" (by decide)
    obtain ⟨os, hos, hotexts⟩ := hunder "operations" (by decide)
    obtain ⟨as, has, hatexts⟩ := hunder "attributes" (by decide)
    obtain ⟨es', hes, hetexts⟩ := hunder "ownedElements" (by decide)
    refine ⟨own ++ ls ++ os ++ as ++ es', ?_, ?_⟩
    · rw [namesIn]
      simp only [bind, Except.bind, howned, hls, hos, has, hes]
      rfl
    · simp only [List.forall_mem_append]
      exact ⟨⟨⟨⟨htexts, hltexts⟩, hotexts⟩, hatexts⟩, hetexts⟩
  | .null, _ => ⟨[], rfl, nofun⟩
  | .bool _, _ => ⟨[], rfl, nofun⟩
  | .int _, _ => ⟨[], rfl, nofun⟩
  | .real _, _ => ⟨[], rfl, nofun⟩
  | .text _, _ => ⟨[], rfl, nofun⟩
  | .list _, _ => ⟨[], rfl, nofun⟩

theorem exists_namesUnder (hempty : P "") {key : String} (hkey : key ∈ listKeys) :
    ∀ es : List (String × Json), (∀ e ∈ es, suits e = true ∧ Sound P e.2) →
      ∃ ns, namesUnder key es = .ok ns ∧ ∀ n ∈ ns, n.2.IsTextOf P
  | [], _ => ⟨[], rfl, nofun⟩
  | (k, v) :: r, h => by
    obtain ⟨⟨hsuits, hsound⟩, hr⟩ := List.forall_mem_cons.1 h
    rw [namesUnder]
    split
    · rename_i hk
      subst hk
      exact exists_namesOf hempty v hsound (exists_list_of_suits hkey hsuits)
    · exact exists_namesUnder hempty hkey r hr

theorem exists_namesOf (hempty : P "") : ∀ v : Json, Sound P v →
    (∃ items, v = .list items ∧ ∀ x ∈ items, x.isObject = true) →
      ∃ ns, namesOf v = .ok ns ∧ ∀ n ∈ ns, n.2.IsTextOf P
  | .list xs, h, _ => exists_namesFromLast hempty xs fun _ hx => h.of_mem_list hx

theorem exists_namesFromLast (hempty : P "") : ∀ xs : List Json, (∀ x ∈ xs, Sound P x) →
    ∃ ns, namesFromLast xs = .ok ns ∧ ∀ n ∈ ns, n.2.IsTextOf P
  | [], _ => ⟨[], rfl, nofun⟩
  | x :: r, h => by
    obtain ⟨hx, hr⟩ := List.forall_mem_cons.1 h
    obtain ⟨first, hfirst, htexts⟩ := exists_namesIn hempty x hx
    obtain ⟨rest, hrest, hrtexts⟩ := exists_namesFromLast hempty r hr
    refine ⟨rest ++ first, ?_, List.forall_mem_append.2 ⟨hrtexts, htexts⟩⟩
    rw [namesFromLast, hfirst, hrest]
    rfl

end

/-! Elements. -/

def Progress.Spoken (P : String → Prop) (p : Progress) : Prop :=
  ∀ edge ∈ p.edges, edge.target.IsTextOf P

def Settles {α : Type} (P : String → Prop) (x : Convert α) (settle : α → Except Misuse α)
    (Q : α → Prop) : Prop :=
  ∀ p : Progress, p.Spoken P → ∃ a p' b, x.run p = .ok (a, p') ∧ p'.Spoken P ∧
    settle a = .ok b ∧ Q b

theorem exists_elementId (hg : Grounds P Q) (h : Sound P (.object es)) {p : Progress}
    (hp : p.Spoken P) :
    ∃ id p', (elementId es).run p = .ok (id, p') ∧ p'.Spoken P ∧ id.IsTextOf P := by
  obtain ⟨s, hs, hspoken⟩ : (Json.memberD es "_id" (.text "")).IsTextOf P :=
    h.memberD_text (by decide) hg.empty
  unfold elementId
  dsimp only
  split
  · rename_i htruthy
    refine ⟨_, _, rfl, hp, s, ?_, hspoken⟩
    rw [← hs]
    unfold member Json.memberD at htruthy ⊢
    cases hv : Keyed.get? "_id" es with
    | none =>
      rw [hv] at htruthy
      cases htruthy
    | some v => rfl
  · exact ⟨_, _, rfl, hp, _, rfl, hg.numbered _⟩

theorem asKey_typeOf (hg : Grounds P Q) (h : Sound P (.object es)) :
    (typeOf es).asKey = .ok (typeOf es) :=
  asKey_of_isText (h.memberD_text (by decide) hg.empty).isText

mutual

/-- An element is read from every object of the right form. -/
theorem settles_element (hg : Grounds P Q) (hnames : ∀ n ∈ names, n.2.IsTextOf P) :
    ∀ v : Json, Sound P v → v.isObject = true →
      Settles P (element v) (settled names) (Element.Spoken P Q)
  | .object es, h, _ => by
    intro p hp
    obtain ⟨id, p₁, hid, hp₁, hidSpoken⟩ := exists_elementId hg h hp
    obtain ⟨shape, shape', hshape, hshape', hspeaks⟩ := exists_shape hg hnames h
    obtain ⟨owned, p', owned', howned, hp', howned', hspoken⟩ :
        ∃ owned p' owned', (if isEnumeration (typeOf es) then pure [] else ownedIn es).run p₁ =
          .ok (owned, p') ∧ p'.Spoken P ∧ settledOwned names owned = .ok owned' ∧
          ∀ e ∈ owned', e.Spoken P Q := by
      split
      · exact ⟨[], p₁, [], rfl, hp₁, rfl, nofun⟩
      · exact settles_ownedIn hg hnames es (fun e he => h.of_mem he) p₁ hp₁
    refine ⟨.node ⟨id, nameOf es, (member es "documentation").orElse (.text "")⟩ shape owned, p',
      .node ⟨id, nameOf es, (member es "documentation").orElse (.text "")⟩ shape' owned', ?_, hp',
      ?_, ?_⟩
    · rw [element]
      refine run_bind_eq_ok.2 ⟨id, p₁, hid, run_bind_eq_ok.2 ⟨typeOf es, p₁, ?_, ?_⟩⟩
      · exact run_lift_eq_ok.2 ⟨asKey_typeOf hg h, rfl⟩
      · refine run_bind_eq_ok.2 ⟨shape, p₁, run_lift_eq_ok.2 ⟨hshape, rfl⟩, ?_⟩
        split at howned
        · rename_i henumeration
          rw [if_pos henumeration]
          exact run_bind_eq_ok.2 ⟨owned, p', howned, rfl⟩
        · rename_i henumeration
          rw [if_neg henumeration]
          exact run_bind_eq_ok.2 ⟨owned, p', howned, rfl⟩
    · simp only [settled, bind, Except.bind, hshape', howned']
      rfl
    · exact .node hidSpoken (h.memberD_text (by decide) hg.empty)
        ((h.doc hg.empty).mono hg.weaker) hspeaks hspoken

theorem settles_ownedIn (hg : Grounds P Q) (hnames : ∀ n ∈ names, n.2.IsTextOf P) :
    ∀ es : List (String × Json), (∀ e ∈ es, suits e = true ∧ Sound P e.2) →
      Settles P (ownedIn es) (settledOwned names) (∀ e ∈ ·, e.Spoken P Q)
  | [], _ => fun p hp => ⟨[], p, [], rfl, hp, rfl, nofun⟩
  | (k, v) :: r, h => by
    obtain ⟨⟨hsuits, hsound⟩, hr⟩ := List.forall_mem_cons.1 h
    rw [ownedIn]
    split
    · rename_i hk
      subst hk
      exact settles_ownedOf hg hnames v hsound (exists_list_of_suits (by decide) hsuits)
    · exact settles_ownedIn hg hnames r hr

theorem settles_ownedOf (hg : Grounds P Q) (hnames : ∀ n ∈ names, n.2.IsTextOf P) :
    ∀ v : Json, Sound P v → (∃ items, v = .list items ∧ ∀ x ∈ items, x.isObject = true) →
      Settles P (ownedOf v) (settledOwned names) (∀ e ∈ ·, e.Spoken P Q)
  | .list xs, h, hitems => by
    obtain ⟨items, heq, hobjects⟩ := hitems
    cases heq
    rw [ownedOf]
    exact settles_ownedFrom hg hnames xs fun x hx => ⟨h.of_mem_list hx, hobjects x hx⟩

theorem settles_ownedFrom (hg : Grounds P Q) (hnames : ∀ n ∈ names, n.2.IsTextOf P) :
    ∀ xs : List Json, (∀ x ∈ xs, Sound P x ∧ x.isObject = true) →
      Settles P (ownedFrom xs) (settledOwned names) (∀ e ∈ ·, e.Spoken P Q)
  | [], _ => fun p hp => ⟨[], p, [], rfl, hp, rfl, nofun⟩
  | x :: r, h => by
    obtain ⟨⟨hx, hobject⟩, hr⟩ := List.forall_mem_cons.1 h
    have hrest := settles_ownedFrom hg hnames r hr
    have hfirst := settles_element hg hnames x hx hobject
    obtain ⟨es, rfl⟩ := Json.eq_of_isObject hobject
    intro p hp
    have hrun {owned : List Element} {p' : Progress} (hmatch : (match edgeKind? (typeOf es) with
        | some kind => do
          modify fun p => { p with edges := p.edges ++
            [⟨reference (member es "source"), reference (member es "target"), kind⟩] }
          ownedFrom r
        | none => do
          let first ← element (.object es)
          return first :: (← ownedFrom r) : Convert (List Element)).run p = .ok (owned, p')) :
        (ownedFrom (.object es :: r)).run p = .ok (owned, p') := by
      rw [ownedFrom]
      refine run_bind_eq_ok.2 ⟨es, p, run_lift_eq_ok.2 ⟨rfl, rfl⟩, ?_⟩
      refine run_bind_eq_ok.2 ⟨typeOf es, p, ?_, hmatch⟩
      exact run_lift_eq_ok.2 ⟨asKey_typeOf hg hx, rfl⟩
    cases hkind : edgeKind? (typeOf es) with
    | some kind =>
      let edge : Edge := ⟨reference (member es "source"), reference (member es "target"), kind⟩
      have hp₁ : Progress.Spoken P { p with edges := p.edges ++ [edge] } := by
        refine List.forall_mem_append.2 ⟨hp, List.forall_mem_singleton.2 ?_⟩
        exact hx.reference (by decide) hg.empty
      obtain ⟨owned, p', owned', howned, hp', hsettled, hspoken⟩ := hrest _ hp₁
      refine ⟨owned, p', owned', hrun ?_, hp', hsettled, hspoken⟩
      rw [hkind]
      exact run_bind_eq_ok.2 ⟨(), _, rfl, howned⟩
    | none =>
      obtain ⟨first, p₁, first', hread, hp₁, hsettled, hspoken⟩ := hfirst p hp
      obtain ⟨rest, p', rest', hreadRest, hp', hsettledRest, hspokenRest⟩ := hrest p₁ hp₁
      refine ⟨first :: rest, p', first' :: rest', hrun ?_, hp', ?_,
        List.forall_mem_cons.2 ⟨hspoken, hspokenRest⟩⟩
      · rw [hkind]
        exact run_bind_eq_ok.2 ⟨first, p₁, hread, run_bind_eq_ok.2 ⟨rest, p', hreadRest, rfl⟩⟩
      · simp only [settledOwned, bind, Except.bind, hsettled, hsettledRest]
        rfl

end

end Document

namespace Element
variable {P Q : String → Prop} {e : Element}

namespace Spoken

theorem id (h : e.Spoken P Q) : e.id.IsTextOf P := by
  cases h
  assumption

theorem name (h : e.Spoken P Q) : e.name.IsTextOf P := by
  cases h
  assumption

theorem doc (h : e.Spoken P Q) : e.facts.doc.IsTextOf Q := by
  cases h
  assumption

theorem shape (h : e.Spoken P Q) : e.shape.Speaks Q := by
  cases h
  assumption

theorem owned (h : e.Spoken P Q) : ∀ c ∈ e.owned, c.Spoken P Q := by
  cases h
  assumption

theorem isTyped (h : e.Spoken P Q) : e.isTyped = true := by
  induction h with
  | @node facts shape owned hid hname hdoc hshape _ ih =>
    refine isTyped_iff.2 ⟨hname.isText, hdoc.isDoc, ?_, ih⟩
    cases shape with
    | classifier isInterface attributes operations =>
      simp only [Element.shape, Shape.isTyped, Bool.and_eq_true, List.all_eq_true]
      exact ⟨fun a ha => (hshape.1 a ha).1.isText, fun o ho => (hshape.2 o ho).2.1.isDoc⟩
    | _ => rfl

end Spoken
end Element

namespace Snapshot
variable {P Q : String → Prop} {s : Snapshot}

theorem spoken_of_mem_entriesFrom {stack : List Entry}
    (h : ∀ x ∈ stack, x.spot.element.Spoken P Q) :
    ∀ x ∈ entriesFrom stack, x.spot.element.Spoken P Q := by
  induction stack using entriesFrom.induct with
  | case1 => simp [entriesFrom]
  | case2 e stack ih =>
    rw [List.forall_mem_cons] at h
    rw [entriesFrom, List.forall_mem_cons]
    refine ⟨h.1, ih ?_⟩
    rw [List.forall_mem_append]
    refine ⟨fun x hx => ?_, h.2⟩
    have hmem := (Spot.mem_spotsBelow (Entry.mem_owned.1 hx).1).1
    exact h.1.owned _ hmem

structure Spoken (P Q : String → Prop) (s : Snapshot) : Prop where
  root : s.root.Spoken P Q
  targets : ∀ edge ∈ s.edges, edge.target.IsTextOf P

theorem Spoken.of_mem_index (h : s.Spoken P Q) {x : Entry} (hx : x ∈ s.index) :
    x.spot.element.Spoken P Q :=
  spoken_of_mem_entriesFrom (List.forall_mem_singleton.2 h.root) x hx

end Snapshot

namespace Document
variable {P Q : String → Prop} {es : Entries} {names : List (Json × Json)} {e e' : Element}

theorem settled_wrapped (h : settled names e = .ok e') :
    settled names (wrapped e) = .ok (wrapped e') := by
  obtain ⟨facts, shape, owned⟩ := e
  obtain ⟨shape', hshape, hbind⟩ := bind_eq_ok.1 h
  obtain ⟨owned', howned, heq⟩ := bind_eq_ok.1 hbind
  cases heq
  have hpackage : (Element.node facts shape' owned').isPackage =
      (Element.node facts shape owned).isPackage := isPackage_of_settledShape hshape
  unfold wrapped
  rw [hpackage]
  split
  · exact h
  · refine bind_eq_ok.2 ⟨.package, rfl, bind_eq_ok.2 ⟨[.node facts shape' owned'], ?_, rfl⟩⟩
    exact bind_eq_ok.2 ⟨_, h, rfl⟩

theorem spoken_wrapped (hg : Grounds P Q) (h : e.Spoken P Q) : (wrapped e).Spoken P Q := by
  unfold wrapped
  split
  · exact h
  · exact .node h.id h.name ⟨"", rfl, hg.weaker "" hg.empty⟩ trivial (List.forall_mem_singleton.2 h)

/-- A document of the right form is read, and its snapshot speaks in the texts of the
document. -/
theorem exists_spoken (hg : Grounds P Q) (h : Sound P (.object es)) :
    ∃ s, toSnapshot es = .ok s ∧ s.base = Snapshot.rootSpot s.root ∧ s.Spoken P Q := by
  obtain ⟨names, hnames, htexts⟩ := exists_namesIn hg.empty _ h
  obtain ⟨top, p, top', hread, hp, hsettled, hspoken⟩ :=
    settles_element hg htexts _ h rfl {} nofun
  have hroot := spoken_wrapped hg hspoken
  have hgood : Snapshot.badId? (entriesFrom [Snapshot.rootEntry (wrapped top')]) = none := by
    rw [Snapshot.badId?, List.find?_eq_none, List.forall_mem_map]
    intro x hx
    have hx := Snapshot.spoken_of_mem_entriesFrom (List.forall_mem_singleton.2 hroot) x hx
    obtain ⟨id, hid, -⟩ := hx.id
    simp [hid, Json.isKey]
  refine ⟨⟨wrapped top', p.edges, Snapshot.rootSpot (wrapped top')⟩, ?_, rfl, hroot, hp⟩
  unfold toSnapshot
  simp only [bind, Except.bind, hnames, hread, settled_wrapped hsettled]
  rw [Snapshot.make, hgood]

end Document
end UmlPress
