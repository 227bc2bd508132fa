import UmlPress.Proofs.Abreast

/-!
# Pages side by side

Two workshops write the pages of two elements side by side if they differ in nothing but
documentations. The elements need not have the same members: those that leave nothing on
a page are passed over, on either side.
-/
namespace UmlPress

inductive Aligned {α : Type} (kept : α → Bool) (R : α → α → Prop) : List α → List α → Prop
  | nil : Aligned kept R [] []
  | left {a as bs} : kept a = false → Aligned kept R as bs → Aligned kept R (a :: as) bs
  | right {b as bs} : kept b = false → Aligned kept R as bs → Aligned kept R as (b :: bs)
  | both {a b as bs} : kept a = true → kept b = true → R a b → Aligned kept R as bs →
    Aligned kept R (a :: as) (b :: bs)

namespace Aligned
variable {α : Type} {kept : α → Bool} {R : α → α → Prop}

theorem refl {as : List α} (hR : ∀ a ∈ as.filter kept, R a a) : Aligned kept R as as := by
  induction as with
  | nil => exact .nil
  | cons a r ih =>
    cases hk : kept a with
    | true =>
      rw [List.filter_cons_of_pos hk] at hR
      obtain ⟨ha, hr⟩ := List.forall_mem_cons.1 hR
      exact .both hk hk ha (ih hr)
    | false =>
      rw [List.filter_cons_of_neg (by simp [hk])] at hR
      exact .left hk (.right hk (ih hR))

/-- The items that are kept, each of them changed. -/
theorem filter_map (kept : α → Bool) (f : α → α) (hf : ∀ a, kept (f a) = kept a)
    (hR : ∀ a, R a (f a)) (as : List α) : Aligned kept R as ((as.filter kept).map f) := by
  induction as with
  | nil => exact .nil
  | cons a r ih =>
    cases hk : kept a with
    | true =>
      rw [List.filter_cons_of_pos hk]
      exact .both hk ((hf a).trans hk) (hR a) ih
    | false =>
      rw [List.filter_cons_of_neg (by simp [hk])]
      exact .left hk ih

end Aligned

theorem Snapshot.targets_congr (s : Snapshot) {e e' : Element} (hid : e.id = e'.id)
    (hname : e.name = e'.name) : s.targets e = s.targets e' := by
  rw [targets, targets]
  induction s.edges with
  | nil => rfl
  | cons edge r ih => rw [targetsOf, targetsOf, ih, hid, hname]

structure Operation.Matched (D : Json → Json → Prop) (o o' : Operation) : Prop where
  name : o.name = o'.name
  isStatic : o.isStatic = o'.isStatic
  inputs : o.inputs = o'.inputs
  doc : D o.doc o'.doc

/-- What the members of two classes need to have in common. Whether there are any at all
is told from all of them, with those that are passed over. -/
structure MembersMatched (D : Json → Json → Prop)
    (ms ms' : List Attribute × List Operation) : Prop where
  empty : (ms.1.isEmpty && ms.2.isEmpty) = (ms'.1.isEmpty && ms'.2.isEmpty)
  attributes : Aligned (!·.isStatic) Eq ms.1 ms'.1
  operations : Aligned (·.name.truthy) (Operation.Matched D) ms.2 ms'.2

def Element.stubbed (e : Element) : List Operation :=
  (e.members?.elim [] (·.2)).filter (·.name.truthy)

structure Element.Matched (D : Json → Json → Prop) (e e' : Element) : Prop where
  id : e.id = e'.id
  name : e.name = e'.name
  doc : D e.facts.doc e'.facts.doc
  literals : e.literals? = e'.literals?
  members : Option.Rel (MembersMatched D) e.members? e'.members?

/-- An element matches itself if its documentations do. -/
theorem Element.Matched.refl {D : Json → Json → Prop} {e : Element}
    (hdoc : D e.facts.doc e.facts.doc) (hstubbed : ∀ o ∈ e.stubbed, D o.doc o.doc) :
    e.Matched D e where
  id := rfl
  name := rfl
  doc := hdoc
  literals := rfl
  members := by
    rw [stubbed] at hstubbed
    generalize e.members? = ms at hstubbed ⊢
    cases ms with
    | none => exact .none
    | some ms =>
      have hoperations : ∀ o ∈ ms.2.filter (·.name.truthy), o.Matched D o :=
        fun o ho => ⟨rfl, rfl, rfl, hstubbed o ho⟩
      exact .some ⟨rfl, .refl fun _ _ => rfl, .refl hoperations⟩

theorem Element.Matched.of_eq (e : Element) : e.Matched Eq e := .refl rfl fun _ _ => rfl

theorem Element.stubbed_of_literals {e : Element} {ls : List Json} (h : e.literals? = some ls) :
    e.stubbed = [] := by
  unfold literals? at h
  split at h
  case h_1 hshape => simp [stubbed, members?, hshape]
  case h_2 => cases h

namespace Emit.Workshop
open Layout Composing

inductive PageKind where
  | ofClass
  | ofEnum

def writePage (w : Workshop) : PageKind → Element → Composing Unit
  | .ofClass => w.writeClass
  | .ofEnum => w.writeEnum

structure Companions (unit : String) (k : Nat) (w w' : Workshop) (D : Json → Json → Prop)
    (block : Nat → Json → List (List String)) : Prop where
  snapshot : w.snapshot = w'.snapshot
  namePrefix : w.options.namePrefix = w'.options.namePrefix
  baseClass : w.options.baseClass = w'.options.baseClass
  render : ∀ template vars, (Supply.shelfOf none).render template (w.common.update vars) =
    (Supply.shelfOf none).render template (w'.common.update vars)
  doc : ∀ {doc doc'}, D doc doc' →
    ∀ d, Abreast unit k d (w.writeDoc doc) (w'.writeDoc doc') (block d doc') d

/-- The blocks of the documentations on a page: the one of the element, and those of the
operations that are written. -/
def docBlocks (block : Nat → Json → List (List String)) (d : Nat) (e : Element) :
    List (List String) :=
  block (d + 1) e.facts.doc ++ e.stubbed.flatMap fun o => block (d + 2) o.doc

theorem appends_part_error {w : Workshop} {template : String} {vars : Keyed String Template.Value}
    {u : Template.Unrendered}
    (h : (Supply.shelfOf none).render template (w.common.update vars) = .error u)
    (unit : String) (d : Nat) :
    Appends unit d (w.part template vars) (.error (.ofUnrendered u)) [] d := by
  intro lines notes supply
  obtain ⟨supply', hshelf, -⟩ := w.run_shelf template
    (b := ⟨⟨unit, d, lines⟩, notes, supply, .ok none⟩) rfl supply.fits_none
  refine ⟨notes, supply', ?_⟩
  rw [part, run_bind, hshelf, List.append_nil]
  dsimp only
  rw [h]
  rfl

section
variable {unit : String} {k d : Nat} {w w' : Workshop}

/-- A template that renders alike for two workshops is written alike, if at all. -/
theorem abreast_part {template : String} {vars : Keyed String Template.Value}
    (h : (Supply.shelfOf none).render template (w.common.update vars) =
      (Supply.shelfOf none).render template (w'.common.update vars)) :
    Abreast unit k d (w.part template vars) (w'.part template vars) [] d := by
  cases hr : (Supply.shelfOf none).render template (w.common.update vars) with
  | ok text =>
    rw [hr] at h
    exact .of_appends (prints_part hr unit d) (prints_part h.symm unit (d + k))
  | error u =>
    rw [hr] at h
    exact .of_still (appends_part_error hr unit d) (appends_part_error h.symm unit (d + k))

theorem abreast_writeDoc (w : Workshop) (doc : Json) :
    Abreast unit k d (w.writeDoc doc) (w.writeDoc doc) [] d := by
  unfold writeDoc
  split
  · refine (Abreast.ofMisuse _).next fun text => ?_
    split
    · exact abreast_part rfl
    · exact .pure ()
  · exact .pure ()

end

namespace Companions
variable {unit : String} {k d : Nat} {w w' : Workshop} {D : Json → Json → Prop}
  {block : Nat → Json → List (List String)} {e e' : Element}

/-- A workshop goes with itself. -/
theorem self (unit : String) (k : Nat) (w : Workshop) :
    Companions unit k w w Eq fun _ _ => [] where
  snapshot := rfl
  namePrefix := rfl
  baseClass := rfl
  render _ _ := rfl
  doc := by
    rintro doc _ rfl d
    exact w.abreast_writeDoc doc

theorem part (h : Companions unit k w w' D block) (template : String)
    (vars : Keyed String Template.Value) :
    Abreast unit k d (w.part template vars) (w'.part template vars) [] d :=
  abreast_part (h.render template vars)

theorem writeAccessors (h : Companions unit k w w' D block) (template : String)
    {as as' : List Attribute} (has : Aligned (!·.isStatic) Eq as as') :
    Abreast unit k d (w.writeAccessors template as) (w'.writeAccessors template as') [] d := by
  induction has with
  | nil => exact .skip
  | left hs _ ih =>
    rw [Workshop.writeAccessors, hs]
    exact ih
  | right hs _ ih =>
    rw [Workshop.writeAccessors, hs]
    exact ih
  | both hs hs' heq _ ih =>
    subst heq
    rw [Workshop.writeAccessors, Workshop.writeAccessors, hs]
    exact (Abreast.ofMisuse _).next fun vars => (h.part template vars).next fun _ => ih

theorem writeMethod (h : Companions unit k w w' D block) {o o' : Operation}
    (ho : o.Matched D o') (hname : o.name.truthy = true) :
    Abreast unit k d (w.writeMethod o) (w'.writeMethod o') (block (d + 1) o'.doc) d := by
  have hbody := (h.doc ho.doc (d + 1)).bind fun _ =>
    (Abreast.line placeholder).next fun _ => Abreast.outdent.next fun _ => .skip
  rw [List.append_nil] at hbody
  rw [Workshop.writeMethod, Workshop.writeMethod, ← ho.name, ← ho.isStatic, ← ho.inputs, hname]
  exact (h.part _ _).next fun _ => Abreast.indent.next fun _ => hbody

/-- An operation without a name leaves a note, and nothing on the sheet. -/
theorem writeMethods (h : Companions unit k w w' D block) {os os' : List Operation}
    (hos : Aligned (·.name.truthy) (Operation.Matched D) os os') :
    Abreast unit k d (w.writeMethods os) (w'.writeMethods os')
      ((os'.filter (·.name.truthy)).flatMap fun o => block (d + 1) o.doc) d := by
  induction hos with
  | nil => exact .pure ()
  | left hs _ ih =>
    rw [Workshop.writeMethods, Workshop.writeMethod, hs]
    exact ih.noted_left _
  | right hs _ ih =>
    rw [Workshop.writeMethods, Workshop.writeMethod, hs, List.filter_cons_of_neg (by simp [hs])]
    exact ih.noted_right _
  | both hs hs' ho _ ih =>
    rw [List.filter_cons_of_pos (by exact hs'), List.flatMap_cons]
    exact (h.writeMethod ho hs).bind fun _ => ih

theorem writeImports (h : Companions unit k w w' D block) (targets : List Target) :
    Abreast unit k d (w.writeImports targets) (w'.writeImports targets) [] d := by
  induction targets with
  | nil => exact .pure ()
  | cons t r ih => exact (h.part _ _).next fun _ => ih

/-- What an element inherits is told by its id and its name. -/
theorem writeTargets (h : Companions unit k w w' D block) (he : e.Matched D e') :
    Abreast unit k d (w.targets e) (w'.targets e') [] d := by
  have htargets : w.snapshot.targets e = w'.snapshot.targets e' := by
    rw [h.snapshot, Snapshot.targets_congr _ he.id he.name]
  rw [targets, targets, htargets]
  refine (Abreast.ofMisuse _).next fun r => ?_
  cases r with
  | ok ts => exact .pure ts
  | error f => exact .of_still (.throw _) (.throw _)

theorem writeMembers (h : Companions unit k w w' D block) (he : e.Matched D e')
    (className : String) :
    Abreast unit k d (w.writeMembers className e) (w'.writeMembers className e')
      (e'.stubbed.flatMap fun o => block (d + 1) o.doc) d := by
  have hmembers := he.members
  rw [Element.stubbed]
  simp only [Workshop.writeMembers, writeSetters, writeGetters, members]
  generalize e.members? = ms at hmembers ⊢
  generalize e'.members? = ms' at hmembers ⊢
  cases hmembers with
  | none => exact .of_trouble _ _
  | @some ms ms' hms =>
    obtain ⟨as, os⟩ := ms
    obtain ⟨as', os'⟩ := ms'
    obtain ⟨hempty, has, hos⟩ := hms
    simp only [pure_bind, Option.elim_some] at hempty has hos ⊢
    rw [hempty]
    split
    case isTrue hnone =>
      have hos' : os' = [] := by simpa using (Bool.and_eq_true_iff.1 hnone).2
      rw [hos']
      exact .line _
    case isFalse =>
      refine (h.part _ _).next fun _ => Abreast.skip.next fun _ => ?_
      refine (h.writeAccessors _ has).next fun _ => (h.writeAccessors _ has).next fun _ => ?_
      refine Abreast.skip.next fun _ => (h.part _ _).next fun _ => Abreast.skip.next fun _ => ?_
      exact h.writeMethods hos

theorem writeClass (h : Companions unit k w w' D block) (he : e.Matched D e') :
    Abreast unit k d (w.writeClass e) (w'.writeClass e') (docBlocks block d e') d := by
  -- from the declaration on, which is the same with and without imports
  have hrest (className : String) (vars : Keyed String Template.Value) :=
    (h.part (d := d) "class_declaration.dart.j2" vars).next fun _ => Abreast.skip.next fun _ =>
    Abreast.indent.next fun _ =>
    (h.part "constructors.dart.j2" [("class_name", .plain className),
      ("raw_name", .ofJson e'.name)]).next fun _ =>
    (h.doc he.doc (d + 1)).bind fun _ => (h.writeMembers he className).bind fun _ =>
    Abreast.outdent.next fun _ => Abreast.skip.next fun _ => (Abreast.line "\x7d").next fun _ =>
    .skip
  simp only [List.append_nil] at hrest
  have htype : w.typeName e.name = w'.typeName e'.name := by
    rw [typeName, typeName, h.namePrefix, he.name]
  rw [Workshop.writeClass, Workshop.writeClass, htype, he.name, h.baseClass]
  refine (h.writeTargets he).next fun ts => (Abreast.ofMisuse _).next fun className => ?_
  refine (h.part _ _).next fun _ => Abreast.skip.next fun _ => ?_
  split
  · exact (h.writeImports ts).next fun _ => Abreast.skip.next fun _ => hrest className _
  · exact hrest className _

theorem writeLiterals (number : Nat) (ls : List Json) :
    Abreast unit k d (writeLiterals number ls) (writeLiterals number ls) [] d := by
  induction ls generalizing number with
  | nil => exact .pure ()
  | cons l r ih => exact (Abreast.line _).next fun _ => ih _

theorem writeEnum (h : Companions unit k w w' D block) (he : e.Matched D e') :
    Abreast unit k d (w.writeEnum e) (w'.writeEnum e') (docBlocks block d e') d := by
  rw [Workshop.writeEnum, Workshop.writeEnum, he.name]
  refine (h.part _ _).next fun _ => Abreast.skip.next fun _ => ?_
  refine (h.part _ _).next fun _ => Abreast.indent.next fun _ => ?_
  refine (h.doc he.doc (d + 1)).bind fun _ => ?_
  rw [literals, literals, he.literals]
  cases hls : e'.literals? with
  | none => exact .of_trouble _ _
  | some ls =>
    rw [Element.stubbed_of_literals hls]
    refine (Abreast.pure ls).next fun ls => ?_
    split
    · exact (Abreast.line _).next fun _ => Abreast.outdent.next fun _ => .skip
    · exact (writeLiterals 1 ls).next fun _ => Abreast.outdent.next fun _ => .skip

theorem writePage (h : Companions unit k w w' D block) (kind : PageKind)
    (he : e.Matched D e') :
    Abreast unit k d (w.writePage kind e) (w'.writePage kind e') (docBlocks block d e') d := by
  cases kind with
  | ofClass => exact h.writeClass he
  | ofEnum => exact h.writeEnum he

end Companions
end Emit.Workshop
end UmlPress
