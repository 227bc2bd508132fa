import UmlPress.Proofs.Pages
import UmlPress.Proofs.Struck

/-!
# Pages and supplies

While the same is found at the directory of templates, a page is the same whatever has
been supplied before, and what can go wrong with it is known: an inherited element is
missing, a template cannot be rendered, or something has not the type that it should
have. Nor does a page depend on more of the model than its own element and what all
models that look alike agree on: from the elements that it inherits from it takes their
names and paths alone.
-/
namespace UmlPress.Emit

structure Bench.Like (folder? : Option Template.Folder) (b b' : Bench) : Prop where
  sheet : b.sheet = b'.sheet
  notes : b.notes = b'.notes
  found : b.found = .ok folder?
  found' : b'.found = .ok folder?
  fits : b.supply.Fits folder?
  fits' : b'.supply.Fits folder?

namespace Composing
variable {α β : Type} {folder? : Option Template.Folder} {T : Trouble → Prop}

def Steady (folder? : Option Template.Folder) (T : Trouble → Prop) (x : Composing α) : Prop :=
  ∀ b b', b.Like folder? b' → (x.run.run b).1 = (x.run.run b').1 ∧
    (x.run.run b).2.Like folder? (x.run.run b').2 ∧ ∀ t, (x.run.run b).1 = .error t → T t

structure Covers (folder? : Option Template.Folder) (T : Trouble → Prop) : Prop where
  unresolved : ∀ source target, T (.fault (.unresolved source target))
  template : ∀ name vars u, (Supply.shelfOf folder?).render name vars = .error u →
    T (.ofUnrendered u)

theorem covers_all (folder? : Option Template.Folder) : Covers folder? fun _ => True where
  unresolved _ _ := trivial
  template _ _ _ _ := trivial

namespace Steady

theorem bind {x : Composing α} {f : α → Composing β} (hx : Steady folder? T x)
    (hf : ∀ a, Steady folder? T (f a)) : Steady folder? T (x >>= f) := by
  intro b b' h
  obtain ⟨hresult, hlike, htrouble⟩ := hx b b' h
  rw [run_bind, run_bind]
  generalize x.run.run b = first at hresult hlike htrouble ⊢
  generalize x.run.run b' = first' at hresult hlike ⊢
  obtain ⟨r, next⟩ := first
  obtain ⟨r', next'⟩ := first'
  obtain rfl : r = r' := hresult
  cases r with
  | error t =>
    refine ⟨rfl, hlike, ?_⟩
    rintro _ ⟨⟩
    exact htrouble t rfl
  | ok a => exact hf a next next' hlike

theorem pure (a : α) : Steady folder? T (Pure.pure a) := fun _ _ h => ⟨rfl, h, by rintro t ⟨⟩⟩

theorem throw {t : Trouble} (ht : T t) : Steady folder? T (throw t : Composing α) := by
  refine fun _ _ h => ⟨rfl, h, ?_⟩
  rintro _ ⟨⟩
  exact ht

theorem onSheet (f : Sheet → Sheet) : Steady folder? T (Composing.onSheet f) :=
  fun _ _ h => ⟨rfl, ⟨congrArg f h.sheet, h.notes, h.found, h.found', h.fits, h.fits'⟩,
    by rintro t ⟨⟩⟩

theorem note (n : Note) : Steady folder? T (Composing.note n) :=
  fun _ _ h => ⟨rfl, ⟨h.sheet, congrArg (· ++ [n]) h.notes, h.found, h.found', h.fits, h.fits'⟩,
    by rintro t ⟨⟩⟩

theorem skip : Steady folder? T Composing.skip := onSheet _

theorem indent : Steady folder? T Composing.indent := onSheet _

theorem outdent : Steady folder? T Composing.outdent := onSheet _

theorem line (s : String) : Steady folder? T (Composing.line s) := onSheet _

/-- Something that has the type that it should have, or may have another one. -/
theorem ofMisuse {r : Except Misuse α} (h : (∃ a, r = .ok a) ∨ ∀ m, T (.misuse m)) :
    Steady folder? T (Composing.ofMisuse r) := by
  cases r with
  | error m =>
    refine throw ?_
    rcases h with ⟨a, ha⟩ | hmisuse
    · cases ha
    · exact hmisuse m
  | ok a => exact pure a

end Steady
end Composing

namespace Workshop
open Composing

section
variable (w : Workshop) {folder? : Option Template.Folder} {T : Trouble → Prop}
  (hT : Covers folder? T)
include hT

theorem steady_part (template : String) (vars : Keyed String Template.Value) :
    Steady folder? T (w.part template vars) := by
  intro b b' h
  obtain ⟨supply, hrun, hfits⟩ := w.run_shelf template h.found h.fits
  obtain ⟨supply', hrun', hfits'⟩ := w.run_shelf template h.found' h.fits'
  have hlike : Bench.Like folder? { b with supply } { b' with supply := supply' } :=
    ⟨h.sheet, h.notes, h.found, h.found', hfits, hfits'⟩
  rw [part, run_bind, run_bind, hrun, hrun']
  dsimp only
  cases hr : (Supply.shelfOf folder?).render template (w.common.update vars) with
  | ok text => exact Steady.onSheet _ _ _ hlike
  | error u => exact Steady.throw (hT.template _ _ u hr) _ _ hlike

theorem steady_writeDoc {doc : Json} (h : doc.isDoc = true ∨ ∀ m, T (.misuse m)) :
    Steady folder? T (w.writeDoc doc) := by
  unfold writeDoc
  split
  · refine .bind (.ofMisuse (h.imp_left exists_docText)) fun text => ?_
    split
    · exact w.steady_part hT _ _
    · exact .pure ()
  · exact .pure ()

theorem steady_writeAccessors (template : String) {attributes : List Attribute}
    (h : (∀ a ∈ attributes, a.name.isText = true) ∨ ∀ m, T (.misuse m)) :
    Steady folder? T (w.writeAccessors template attributes) := by
  induction attributes with
  | nil => exact .skip
  | cons a r ih =>
    have hrest := ih (h.imp_left fun h a ha => h a (List.mem_cons_of_mem _ ha))
    rw [writeAccessors]
    split
    · have ha := h.imp_left fun h => exists_accessor (h a List.mem_cons_self)
      exact .bind (.ofMisuse ha) fun vars => .bind (w.steady_part hT _ _) fun _ => hrest
    · exact hrest

theorem steady_writeMethods {operations : List Operation}
    (h : (∀ o ∈ operations, o.doc.isDoc = true) ∨ ∀ m, T (.misuse m)) :
    Steady folder? T (w.writeMethods operations) := by
  induction operations with
  | nil => exact .pure ()
  | cons o r ih =>
    rw [writeMethods]
    refine .bind ?_ fun _ => ih (h.imp_left fun h o ho => h o (List.mem_cons_of_mem _ ho))
    unfold writeMethod
    split
    · exact .note _
    · have ho := h.imp_left fun h => h o List.mem_cons_self
      refine .bind (w.steady_part hT _ _) fun _ => .bind .indent fun _ => ?_
      refine .bind (w.steady_writeDoc hT ho) fun _ => ?_
      exact .bind (.line _) fun _ => .bind .outdent fun _ => .skip

theorem steady_writeImports (targets : List Target) :
    Steady folder? T (w.writeImports targets) := by
  induction targets with
  | nil => exact .pure ()
  | cons t r ih => exact .bind (w.steady_part hT _ _) fun _ => ih

variable {facts : Facts} {owned : List Element}

theorem steady_writeMembers (className : String) {isInterface : Bool} {attributes : List Attribute}
    {operations : List Operation}
    (h : (Shape.classifier isInterface attributes operations).isTyped = true ∨ ∀ m, T (.misuse m)) :
    Steady folder? T (w.writeMembers className
      (.node facts (.classifier isInterface attributes operations) owned)) := by
  rw [Shape.isTyped, Bool.and_eq_true, List.all_eq_true, List.all_eq_true] at h
  have hattributes := h.imp_left And.left
  simp only [writeMembers, writeSetters, writeGetters, members, Element.members?, Element.shape,
    pure_bind]
  split
  · exact .line _
  · refine .bind (w.steady_part hT _ _) fun _ => .bind .skip fun _ => ?_
    refine .bind (w.steady_writeAccessors hT _ hattributes) fun _ => ?_
    refine .bind (w.steady_writeAccessors hT _ hattributes) fun _ => .bind .skip fun _ => ?_
    refine .bind (w.steady_part hT _ _) fun _ => .bind .skip fun _ => ?_
    exact w.steady_writeMethods hT (h.imp_left And.right)

theorem steady_targets {e : Element}
    (h : (∃ r, w.snapshot.targets e = .ok r) ∨ ∀ m, T (.misuse m)) :
    Steady folder? T (w.targets e) := by
  intro b b' hlike
  rw [run_targets, run_targets]
  refine ⟨rfl, hlike, ?_⟩
  cases hr : w.snapshot.targets e with
  | error m =>
    rintro _ ⟨⟩
    rcases h with ⟨r, h⟩ | hmisuse
    · rw [hr] at h
      cases h
    · exact hmisuse m
  | ok r =>
    rcases r with f | ts
    · rintro _ ⟨⟩
      obtain ⟨source, target, rfl⟩ := eq_unresolved_of_targetsOf hr
      exact hT.unresolved source target
    · rintro _ ⟨⟩

/-- The page of a class, whose inherited elements can be looked up if it is all texts. -/
theorem steady_writeClass {isInterface : Bool} {attributes : List Attribute}
    {operations : List Operation} {e : Element}
    (he : e = .node facts (.classifier isInterface attributes operations) owned)
    (h : (e.isTyped = true ∧ ∃ r, w.snapshot.targets e = .ok r) ∨ ∀ m, T (.misuse m)) :
    Steady folder? T (w.writeClass e) := by
  have hname := h.imp_left fun h => w.exists_typeName h.1
  have hdoc := h.imp_left fun h => (Element.isTyped_iff.1 h.1).2.1
  have hmembers (name : String) : Steady folder? T (w.writeMembers name e) := by
    have hshape := h.imp_left fun h => (Element.isTyped_iff.1 h.1).2.2.1
    rw [he] at hshape ⊢
    exact w.steady_writeMembers hT name hshape
  unfold writeClass
  refine .bind (w.steady_targets hT (h.imp_left And.right)) fun ts => ?_
  refine .bind (.ofMisuse hname) fun name => ?_
  refine .bind (w.steady_part hT _ _) fun _ => .bind .skip fun _ => ?_
  split
  case' isTrue => refine .bind (w.steady_writeImports hT ts) fun _ => .bind .skip fun _ => ?_
  -- the rest of the page is the same with and without imports
  all_goals
    refine .bind (w.steady_part hT _ _) fun _ => .bind .skip fun _ => .bind .indent fun _ => ?_
    refine .bind (w.steady_part hT _ _) fun _ => .bind (w.steady_writeDoc hT hdoc) fun _ => ?_
    refine .bind (hmembers name) fun _ => .bind .outdent fun _ => .bind .skip fun _ => ?_
    exact .bind (.line _) fun _ => .skip

omit hT in
theorem steady_writeLiterals (number : Nat) (ls : List Json) :
    Steady folder? T (writeLiterals number ls) := by
  induction ls generalizing number with
  | nil => exact .pure ()
  | cons l r ih => exact .bind (.line _) fun _ => ih _

theorem steady_writeEnum {ls : List Json} {e : Element}
    (he : e = .node facts (.enumeration ls) owned)
    (h : e.isTyped = true ∨ ∀ m, T (.misuse m)) : Steady folder? T (w.writeEnum e) := by
  have hdoc := h.imp_left fun h => (Element.isTyped_iff.1 h).2.1
  have hliterals : Steady folder? T (literals e) := by
    rw [he]
    exact .pure _
  unfold writeEnum
  refine .bind (w.steady_part hT _ _) fun _ => .bind .skip fun _ => ?_
  refine .bind (w.steady_part hT _ _) fun _ => .bind .indent fun _ => ?_
  refine .bind (w.steady_writeDoc hT hdoc) fun _ => .bind hliterals fun ls => ?_
  split
  · exact .bind (.line _) fun _ => .bind .outdent fun _ => .skip
  · exact .bind (steady_writeLiterals 1 ls) fun _ => .bind .outdent fun _ => .skip

omit hT in
/-- A steady page is the same with every supply that fits, its trouble is of the kind, and
the supply after it fits. -/
theorem page_of_steady {compose : Composing Unit} (h : compose.Steady folder? T)
    {supply supply' : Supply} (hs : supply.Fits folder?) (hs' : supply'.Fits folder?) :
    (w.page (.ok folder?) supply compose).1 = (w.page (.ok folder?) supply' compose).1 ∧
      (w.page (.ok folder?) supply compose).2.2.Fits folder? ∧
      ∀ t, (w.page (.ok folder?) supply compose).1 = .error t → T t := by
  obtain ⟨hresult, hlike, htrouble⟩ := h ⟨{ unit := w.options.indentUnit }, [], supply, .ok folder?⟩
    ⟨{ unit := w.options.indentUnit }, [], supply', .ok folder?⟩ ⟨rfl, rfl, rfl, rfl, hs, hs'⟩
  unfold page
  generalize compose.run.run ⟨{ unit := w.options.indentUnit }, [], supply, .ok folder?⟩ = end₁ at *
  generalize compose.run.run ⟨{ unit := w.options.indentUnit }, [], supply', .ok folder?⟩ = end₂ at *
  obtain ⟨r, b⟩ := end₁
  obtain ⟨r', b'⟩ := end₂
  obtain rfl : r = r' := hresult
  refine ⟨?_, hlike.fits, ?_⟩
  · show r.map _ = r.map _
    rw [hlike.sheet]
  · cases r with
    | error t =>
      rintro _ ⟨⟩
      exact htrouble t rfl
    | ok a => rintro t ⟨⟩

end

/-! Pages of models that look alike. -/

def withSnapshot (w : Workshop) (s : Snapshot) : Workshop := { w with snapshot := s }

variable {w : Workshop} {s : Snapshot} {mask : Mask} {facts : Facts} {shape : Shape}
  (owned : List Element) {owned' : List Element}

theorem map_targets (w : Workshop) (e : Element) : List.map Target.bare <$> w.targets e = (do
    match ← ofMisuse ((w.snapshot.targets e).map (Except.map (List.map Target.bare))) with
    | .ok ts => return ts
    | .error f => throw (.fault f) : Composing (List Target)) := by
  unfold targets
  rcases w.snapshot.targets e with misuse | f | ts <;> rfl

theorem targets_withSnapshot (h : w.snapshot.Like s) :
    List.map Target.bare <$> (w.withSnapshot s).targets (.node facts shape owned') =
      List.map Target.bare <$> w.targets (.node facts shape owned) := by
  rw [map_targets, map_targets]
  congr 2
  exact h.targets rfl rfl

/-- What is done with inherited elements, of which the path and the name are read alone. -/
theorem bind_bare {x y : Composing (List Target)} {f f' : List Target → Composing Unit}
    (h : List.map Target.bare <$> x = List.map Target.bare <$> y)
    (hf : ∀ ts, f (ts.map Target.bare) = f ts) (hf' : ∀ ts, f' ts = f (ts.map Target.bare)) :
    x >>= f' = y >>= f := by
  calc x >>= f' = x >>= fun ts => f (ts.map Target.bare) := by rw [funext hf']
    _ = List.map Target.bare <$> x >>= f := (bind_map_left _ x f).symm
    _ = List.map Target.bare <$> y >>= f := by rw [h]
    _ = y >>= fun ts => f (ts.map Target.bare) := bind_map_left _ y f
    _ = y >>= f := by rw [funext hf]

theorem writeImports_withSnapshot (targets : List Target) :
    (w.withSnapshot s).writeImports targets = w.writeImports (targets.map Target.bare) := by
  induction targets with
  | nil => rfl
  | cons t r ih =>
    rw [List.map_cons, writeImports, writeImports, ih]
    rfl

theorem writeAccessors_withSnapshot (template : String) (attributes : List Attribute) :
    (w.withSnapshot s).writeAccessors template attributes =
      w.writeAccessors template attributes := by
  induction attributes with
  | nil => rfl
  | cons a r ih =>
    rw [writeAccessors, writeAccessors, ih]
    rfl

theorem writeMethods_withSnapshot (operations : List Operation) :
    (w.withSnapshot s).writeMethods operations = w.writeMethods operations := by
  induction operations with
  | nil => rfl
  | cons o r ih =>
    rw [writeMethods, writeMethods, ih]
    rfl

theorem writeMembers_withSnapshot (className : String) :
    (w.withSnapshot s).writeMembers className (.node facts shape owned') =
      w.writeMembers className (.node facts shape owned) := by
  have hmembers : members (.node facts shape owned') = members (.node facts shape owned) := rfl
  simp only [writeMembers, writeSetters, writeGetters, hmembers, writeAccessors_withSnapshot,
    writeMethods_withSnapshot]
  rfl

/-- The page of a class does not depend on what the class owns, nor on anything that
models which look alike may differ in. -/
theorem writeClass_withSnapshot (h : w.snapshot.Like s) :
    (w.withSnapshot s).writeClass (.node facts shape owned') =
      w.writeClass (.node facts shape owned) := by
  have himports (ts : List Target) : w.writeImports (ts.map Target.bare) = w.writeImports ts :=
    (writeImports_withSnapshot (s := w.snapshot) ts).symm
  unfold writeClass
  refine bind_bare (targets_withSnapshot owned h) (fun ts => ?_) fun ts => ?_
  · simp only [himports, List.isEmpty_map, List.map_map, Function.comp_def, Target.bare]
    rfl
  · simp only [writeImports_withSnapshot, writeMembers_withSnapshot owned, List.isEmpty_map,
      List.map_map, Function.comp_def, Target.bare]
    rfl

def strike (w : Workshop) (mask : Mask) : Workshop :=
  { w with snapshot := w.snapshot.strike mask }

/-- Nor does it depend on what is struck out elsewhere. -/
theorem writeClass_strike : (w.strike mask).writeClass (.node facts shape owned') =
    w.writeClass (.node facts shape owned) :=
  writeClass_withSnapshot owned (w.snapshot.like_strike mask)

end Workshop
end UmlPress.Emit
