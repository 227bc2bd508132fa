import UmlPress.Proofs.Snippets

/-!
# What the steps of a page print

While no directory of templates is found, a step that composes a page appends
lines to the sheet and may change the depth. What it appends is told by the
layout, with the lines moved in as deep as the step stands. For the lines to be
those of the layout, all that is put into them must be a line itself.
-/
namespace UmlPress

namespace Layout
variable {unit : String}

def insetBy (unit : String) : Nat → List String → List String
  | 0, ls => ls
  | depth + 1, ls => insetBy unit depth (inset unit ls)

theorem insetBy_append (depth : Nat) (ls ms : List String) :
    insetBy unit depth (ls ++ ms) = insetBy unit depth ls ++ insetBy unit depth ms := by
  induction depth generalizing ls ms with
  | zero => rfl
  | succ depth ih => rw [insetBy, insetBy, insetBy, inset_append, ih]

theorem insetBy_nil (depth : Nat) : insetBy unit depth [] = [] := by
  induction depth with
  | zero => rfl
  | succ depth ih => exact ih

end Layout

namespace Sheet

theorem indented_zero (unit : String) (lines : List String) (l : String) :
    ({ unit, depth := 0, lines } : Sheet).indented l = l := by
  by_cases hl : l = "" <;> simp [indented, margin, hl]

theorem indented_succ (unit : String) (depth : Nat) (lines : List String) (l : String) :
    ({ unit, depth := depth + 1, lines } : Sheet).indented l =
      ({ unit, depth, lines } : Sheet).indented (if l = "" then "" else unit ++ l) := by
  by_cases hl : l = ""
  · simp [indented, hl]
  · simp [indented, margin, hl, List.replicate_succ', String.append_assoc]

/-- A sheet moves lines in as deep as it stands. -/
theorem map_indented (unit : String) (depth : Nat) (lines ls : List String) :
    ls.map ({ unit, depth, lines } : Sheet).indented = Layout.insetBy unit depth ls := by
  induction depth generalizing ls with
  | zero =>
    have hid : ls.map ({ unit, depth := 0, lines } : Sheet).indented = ls.map id :=
      List.map_congr_left fun l _ => indented_zero unit lines l
    rw [hid, List.map_id, Layout.insetBy]
  | succ depth ih =>
    rw [Layout.insetBy, ← ih, Layout.inset, List.map_map]
    exact List.map_congr_left fun l _ => indented_succ unit depth lines l

end Sheet

def Json.isLine : Json → Bool
  | .text s => decide (IsLine s)
  | _ => false

namespace Json

theorem exists_of_isLine {v : Json} (h : v.isLine = true) : ∃ s, v = .text s ∧ IsLine s := by
  cases v with
  | text s => exact ⟨s, rfl, of_decide_eq_true h⟩
  | _ => simp [isLine] at h

theorem isLine_display {v : Json} (h : v.isLine = true) : IsLine v.display := by
  obtain ⟨s, rfl, hs⟩ := exists_of_isLine h
  exact hs

end Json

/-! What can stand in the layout of a page. -/

def Attribute.isLined (a : Attribute) : Bool := a.name.isLine && a.type.isLine

def Operation.isLined (o : Operation) : Bool :=
  o.name.isLine && o.doc.isDoc && o.inputs.all (·.name.isLine)

def Target.isLined (t : Target) : Bool := t.spot.element.name.isLine && t.path.all (·.isLine)

theorem Attribute.isLined_iff {a : Attribute} :
    a.isLined = true ↔ a.name.isLine = true ∧ a.type.isLine = true := Bool.and_eq_true_iff

theorem Operation.isLined_iff {o : Operation} : o.isLined = true ↔
    o.name.isLine = true ∧ o.doc.isDoc = true ∧ ∀ p ∈ o.inputs, p.name.isLine = true := by
  simp [isLined, and_assoc]

theorem Target.isLined_iff {t : Target} : t.isLined = true ↔
    t.spot.element.name.isLine = true ∧ ∀ n ∈ t.path, n.isLine = true := by
  simp [isLined]

namespace Emit.Composing
open Layout
variable {unit : String} {depth depth' depth'' : Nat} {x y : Composing Unit} {ls ms : List String}

def Prints (unit : String) (depth : Nat) (x : Composing Unit) (ls : List String)
    (depth' : Nat) : Prop :=
  ∀ lines notes supply, ∃ notes' supply',
    x.run.run ⟨⟨unit, depth, lines⟩, notes, supply, .ok none⟩ =
      (.ok (), ⟨⟨unit, depth', lines ++ ls⟩, notes', supply', .ok none⟩)

namespace Prints

theorem of_eq (h : Prints unit depth x ls depth') (heq : ls = ms) :
    Prints unit depth x ms depth' :=
  heq ▸ h

theorem bind (hx : Prints unit depth x ls depth') (hy : Prints unit depth' y ms depth'') :
    Prints unit depth (x >>= fun _ => y) (ls ++ ms) depth'' := by
  intro lines notes supply
  obtain ⟨notes', supply', hx⟩ := hx lines notes supply
  obtain ⟨notes'', supply'', hy⟩ := hy (lines ++ ls) notes' supply'
  refine ⟨notes'', supply'', ?_⟩
  rw [run_bind, hx]
  dsimp only
  rw [hy, List.append_assoc]

/-- A step that leaves the lines of the sheet as they are. -/
theorem of_run (h : ∀ lines notes supply, ∃ notes',
    x.run.run ⟨⟨unit, depth, lines⟩, notes, supply, .ok none⟩ =
      (.ok (), ⟨⟨unit, depth', lines⟩, notes', supply, .ok none⟩)) :
    Prints unit depth x [] depth' := by
  intro lines notes supply
  obtain ⟨notes', hrun⟩ := h lines notes supply
  refine ⟨notes', supply, ?_⟩
  rw [List.append_nil, hrun]

theorem pure : Prints unit depth (pure ()) [] depth := of_run fun _ notes _ => ⟨notes, rfl⟩

theorem note (n : Note) : Prints unit depth (Composing.note n) [] depth :=
  of_run fun _ notes _ => ⟨notes ++ [n], rfl⟩

theorem indent : Prints unit depth Composing.indent [] (depth + 1) :=
  of_run fun _ notes _ => ⟨notes, rfl⟩

theorem outdent : Prints unit (depth + 1) Composing.outdent [] depth :=
  of_run fun _ notes _ => ⟨notes, rfl⟩

theorem line (s : String) : Prints unit depth (Composing.line s) (insetBy unit depth [s]) depth := by
  intro lines notes supply
  refine ⟨notes, supply, ?_⟩
  rw [← Sheet.map_indented unit depth lines]
  rfl

theorem skip : Prints unit depth Composing.skip (insetBy unit depth [""]) depth := line ""

end Prints
end Emit.Composing

namespace Emit.Workshop
open Layout Composing Template
variable {w : Workshop} {depth : Nat} {template : String} {vars : Keyed String Value}
  {ls : List String}

theorem prints_part {text : String} (h : w.Renders template vars text) (unit : String)
    (depth : Nat) :
    Prints unit depth (w.part template vars) (insetBy unit depth (splitLines text)) depth := by
  intro lines notes supply
  obtain ⟨supply', hshelf, -⟩ := w.run_shelf template
    (b := ⟨⟨unit, depth, lines⟩, notes, supply, .ok none⟩) rfl supply.fits_none
  refine ⟨notes, supply', ?_⟩
  rw [Renders] at h
  rw [part, run_bind, hshelf]
  dsimp only
  rw [show (Supply.shelfOf none).render template (w.common.update vars) = .ok text from h,
    ← Sheet.map_indented unit depth lines]
  rfl

/-- A template that writes lines with line feeds between them. -/
theorem prints_part_intercalate (h : w.Renders template vars ("\n".intercalate ls))
    (hls : ∀ l ∈ ls, IsLine l) (hlast : ls.getLast? ≠ some "") (unit : String) (depth : Nat) :
    Prints unit depth (w.part template vars) (insetBy unit depth ls) depth := by
  have hprints := prints_part h unit depth
  rwa [splitLines_intercalate hls hlast] at hprints

/-- A template that ends each line with a line feed. -/
theorem prints_part_join (h : w.Renders template vars (String.join (ls.map (· ++ "\n"))))
    (hls : ∀ l ∈ ls, IsLine l) (unit : String) (depth : Nat) :
    Prints unit depth (w.part template vars) (insetBy unit depth ls) depth := by
  have hprints := prints_part h unit depth
  rwa [splitLines_join hls] at hprints

theorem docText_eq {doc : Json} (h : doc.isDoc = true) : docText doc = .ok (docOf doc) := by
  unfold docText
  cases ht : doc.truthy with
  | true =>
    rw [Json.isDoc, ht] at h
    obtain ⟨s, rfl⟩ := Json.eq_of_isText (by simpa using h)
    rfl
  | false =>
    cases doc with
    | text s =>
      have hs : s = "" := by simpa [Json.truthy] using ht
      rw [hs]
      rfl
    | _ => rfl

/-- Any documentation has the lines of its layout. -/
theorem prints_writeDoc (w : Workshop) {doc : Json} (h : doc.isDoc = true) (unit : String) :
    Prints unit depth (w.writeDoc doc) (insetBy unit depth (w.docLines doc)) depth := by
  unfold writeDoc docLines
  split
  case isFalse =>
    rw [insetBy_nil]
    exact .pure
  case isTrue =>
    rw [docText_eq h]
    change Prints unit depth (if docOf doc ≠ "" then _ else _) _ depth
    split
    case isTrue hne =>
      have hsplit : splitLines (docOf doc) ≠ [] := splitLines_ne_nil hne
      exact prints_part_join (w.renders_fenced hsplit)
        (composes_isLine.of_fenced fun l hl => isLine_of_mem_splitLines hl) unit depth
    case isFalse hempty =>
      have hnone : docOf doc = "" := by simpa using hempty
      rw [hnone]
      change Prints unit depth _ (insetBy unit depth []) depth
      rw [insetBy_nil]
      exact .pure

/-- A step that depends on a value that is there. -/
theorem ofMisuse_bind {α : Type} {r : Except Misuse α} {a : α} (h : r = .ok a)
    (f : α → Composing Unit) : (ofMisuse r >>= f) = f a := by
  rw [h]
  rfl

theorem ofJson_of_isLine {v : Json} (h : v.isLine = true) : Value.ofJson v = .plain v.display := by
  obtain ⟨s, rfl, -⟩ := Json.exists_of_isLine h
  rfl

theorem map_ofJson_of_isLine {α : Type} {xs : List α} {f : α → Json}
    (h : ∀ x ∈ xs, (f x).isLine = true) :
    xs.map (fun x => Value.ofJson (f x)) = (xs.map fun x => (f x).display).map .plain := by
  rw [List.map_map]
  exact List.map_congr_left fun x hx => ofJson_of_isLine (h x hx)

theorem accessor_of_isLine {a : Attribute} (hname : a.name.isLine = true)
    (htype : a.type.isLine = true) :
    accessor a = .ok [("name", .plain a.name.display), ("type", .plain a.type.display),
      ("fragment", .plain (capitalized a.name.display))] := by
  obtain ⟨s, hs, -⟩ := Json.exists_of_isLine hname
  unfold accessor Naming.accessorFragment
  rw [ofJson_of_isLine htype, hs, Naming.formatName_text]
  rfl

/-- One group of accessors, with an empty line behind it. -/
theorem prints_writeAccessors (w : Workshop) (template : String)
    (layout : String → String → List String)
    (hrenders : ∀ name type, w.Renders template [("name", .plain name), ("type", .plain type),
      ("fragment", .plain (capitalized name))] ("\n".intercalate (layout name type)))
    (hlayout : ∀ name type, IsLine name → IsLine type →
      (∀ l ∈ layout name type, IsLine l) ∧ (layout name type).getLast? ≠ some "")
    {attributes : List Attribute}
    (h : ∀ a ∈ attributes, a.isLined = true) (unit : String) :
    Prints unit depth (w.writeAccessors template attributes)
      (insetBy unit depth (accessorLines layout attributes ++ [""])) depth := by
  induction attributes with
  | nil => exact .skip
  | cons a r ih =>
    obtain ⟨ha, hr⟩ := List.forall_mem_cons.1 h
    obtain ⟨hname, htype⟩ := Attribute.isLined_iff.1 ha
    have hrest := ih hr
    rw [writeAccessors]
    cases hs : a.isStatic with
    | true => simpa [accessorLines, hs] using hrest
    | false =>
      obtain ⟨hls, hlast⟩ := hlayout _ _ (Json.isLine_display hname) (Json.isLine_display htype)
      have hfirst := prints_part_intercalate (hrenders a.name.display a.type.display) hls hlast
        unit depth
      have hsplit : accessorLines layout (a :: r) =
          layout a.name.display a.type.display ++ accessorLines layout r := by
        simp [accessorLines, hs]
      rw [hsplit, List.append_assoc, insetBy_append]
      simp only [Bool.not_false, if_true]
      rw [ofMisuse_bind (accessor_of_isLine hname htype)]
      exact hfirst.bind hrest

theorem isLine_indentUnit (o : Options) : IsLine o.indentUnit := by
  rw [Options.indentUnit]
  split
  case isTrue => decide
  case isFalse =>
    rw [IsLine, String.toList_ofList]
    intro c hc
    rw [List.eq_of_mem_replicate hc]
    decide

theorem prints_writeSetters (w : Workshop) {attributes : List Attribute} (h : ∀ a ∈ attributes,
    a.isLined = true) (unit : String) :
    Prints unit depth (w.writeAccessors "setter.dart.j2" attributes)
      (insetBy unit depth (accessorLines (setter w.options.indentUnit) attributes ++ [""]))
      depth := by
  refine w.prints_writeAccessors _ _ w.renders_setter (fun name type hname htype => ?_) h unit
  exact ⟨composes_isLine.of_setter (isLine_indentUnit _) hname htype, by simp [setter]⟩

theorem prints_writeGetters (w : Workshop) {attributes : List Attribute} (h : ∀ a ∈ attributes,
    a.isLined = true) (unit : String) :
    Prints unit depth (w.writeAccessors "getter.dart.j2" attributes)
      (insetBy unit depth (accessorLines (getter w.options.indentUnit) attributes ++ [""]))
      depth := by
  refine w.prints_writeAccessors _ _ w.renders_getter (fun name type hname htype => ?_) h unit
  exact ⟨composes_isLine.of_getter (isLine_indentUnit _) hname htype, by simp [getter]⟩

/-- A stub, unless the operation has no name. -/
theorem prints_writeMethod (w : Workshop) {o : Operation} (h : o.isLined = true) :
    Prints w.options.indentUnit depth (w.writeMethod o)
      (insetBy w.options.indentUnit depth (if o.name.truthy then w.stubLines o else []))
      depth := by
  obtain ⟨hname, hdoc, hinputs⟩ := Operation.isLined_iff.1 h
  unfold writeMethod
  cases ht : o.name.truthy with
  | false =>
    simp only [Bool.not_false, Bool.false_eq_true, if_true, if_false]
    rw [insetBy_nil]
    exact .note _
  | true =>
    have hparameters : ∀ s ∈ o.inputs.map (·.name.display), IsLine s := by
      intro s hs
      obtain ⟨p, hp, rfl⟩ := List.mem_map.1 hs
      exact Json.isLine_display (hinputs p hp)
    have hsignature := prints_part_join
      (w.renders_signature o.isStatic o.name.display (o.inputs.map (·.name.display)))
      (composes_isLine.of_signature (Json.isLine_display hname) hparameters)
      w.options.indentUnit depth
    have hprints := hsignature.bind <| Prints.indent.bind <|
      (w.prints_writeDoc hdoc w.options.indentUnit).bind <|
        (Prints.line placeholder).bind <| Prints.outdent.bind Prints.skip
    simp only [Bool.not_true, Bool.false_eq_true, if_false, if_true]
    rw [ofJson_of_isLine hname, map_ofJson_of_isLine hinputs]
    refine hprints.of_eq ?_
    simp only [stubLines, inset_append, insetBy_append, insetBy, List.nil_append,
      List.append_assoc]

theorem prints_writeMethods (w : Workshop) {operations : List Operation}
    (h : ∀ o ∈ operations, o.isLined = true) :
    Prints w.options.indentUnit depth (w.writeMethods operations)
      (insetBy w.options.indentUnit depth (w.methodLines operations)) depth := by
  induction operations with
  | nil => exact Prints.pure.of_eq (insetBy_nil depth).symm
  | cons o r ih =>
    obtain ⟨ho, hr⟩ := List.forall_mem_cons.1 h
    rw [writeMethods]
    refine ((w.prints_writeMethod ho).bind (ih hr)).of_eq ?_
    rw [← insetBy_append]
    cases ht : o.name.truthy <;> simp [methodLines, ht]

/-- A template that writes a single line. -/
theorem prints_part_line {l : String} (h : w.Renders template vars l) (hl : IsLine l)
    (hne : l ≠ "") (unit : String) (depth : Nat) :
    Prints unit depth (w.part template vars) (insetBy unit depth [l]) depth := by
  have hprints := prints_part h unit depth
  rwa [splitLines_of_isLine hl hne] at hprints

theorem prints_writeImports (w : Workshop) {targets : List Target}
    (h : ∀ t ∈ targets, t.isLined = true) (unit : String) (depth : Nat) :
    Prints unit depth (w.writeImports targets) (insetBy unit depth (targets.map fun t =>
      importLine (t.path.map Json.display) t.spot.element.name.display)) depth := by
  induction targets with
  | nil => exact Prints.pure.of_eq (insetBy_nil depth).symm
  | cons t r ih =>
    obtain ⟨ht, hr⟩ := List.forall_mem_cons.1 h
    obtain ⟨hname, hpath⟩ := Target.isLined_iff.1 ht
    have hnames : ∀ s ∈ t.path.map Json.display, IsLine s := by
      intro s hs
      obtain ⟨n, hn, rfl⟩ := List.mem_map.1 hs
      exact Json.isLine_display (hpath n hn)
    have hline := prints_part_line
      (w.renders_import (t.path.map Json.display) t.spot.element.name.display)
      (composes_isLine.of_importLine hnames (Json.isLine_display hname)) (by simp [importLine]) unit
      depth
    rw [writeImports, ofJson_of_isLine hname, map_ofJson_of_isLine hpath]
    refine (hline.bind (ih hr)).of_eq ?_
    rw [← insetBy_append]
    rfl

theorem prints_writeMembers (w : Workshop) {name : String} (hname : IsLine name) {facts : Facts}
    {isInterface : Bool} {attributes : List Attribute} {operations : List Operation}
    {owned : List Element}
    (hattributes : ∀ a ∈ attributes, a.isLined = true)
    (hoperations : ∀ o ∈ operations, o.isLined = true) :
    Prints w.options.indentUnit depth
      (w.writeMembers name (.node facts (.classifier isInterface attributes operations) owned))
      (insetBy w.options.indentUnit depth (w.memberLines name attributes operations)) depth := by
  have hunit := isLine_indentUnit w.options
  have hput := prints_part_intercalate w.renders_put (composes_isLine.of_put hunit) (by simp [put])
    w.options.indentUnit depth
  have hsave := prints_part_intercalate (w.renders_save name) (composes_isLine.of_save hunit hname)
    (by simp [save]) w.options.indentUnit depth
  have hprints := hput.bind <| Prints.skip.bind <|
    (w.prints_writeSetters hattributes w.options.indentUnit).bind <|
    (w.prints_writeGetters hattributes w.options.indentUnit).bind <|
    Prints.skip.bind <| hsave.bind <| Prints.skip.bind (w.prints_writeMethods hoperations)
  simp only [writeMembers, writeSetters, writeGetters, members, Element.members?, Element.shape,
    pure_bind, Bool.and_eq_true, List.isEmpty_iff]
  unfold memberLines
  split
  case isTrue => exact .line placeholder
  case isFalse =>
    refine hprints.of_eq ?_
    have htwo : ["", ""] = [""] ++ [""] := rfl
    simp only [htwo, insetBy_append, List.append_assoc]

end Emit.Workshop
end UmlPress
