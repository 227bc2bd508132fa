import UmlPress.Proofs.Printing
import UmlPress.Proofs.Stems

/-!
# Pages that are completed

While no directory of templates is found, the page of an element that is all texts is
completed, whatever the texts are: no template in stock fails on a text. What is left to fail
is the look-up of the inherited elements. No half stands on the page if none stands in the texts.
-/
namespace UmlPress

theorem Json.ofJson_of_isText {v : Json} (h : v.isText = true) :
    Template.Value.ofJson v = .plain v.display := by
  obtain ⟨s, rfl⟩ := Json.eq_of_isText h
  rfl

theorem Json.map_ofJson_of_isText {α : Type} {xs : List α} {f : α → Json}
    (h : ∀ x ∈ xs, (f x).isText = true) :
    xs.map (fun x => Template.Value.ofJson (f x)) = (xs.map fun x => (f x).display).map .plain := by
  rw [List.map_map]
  exact List.map_congr_left fun x hx => ofJson_of_isText (h x hx)

def Target.isPlain (t : Target) : Bool :=
  t.spot.element.name.isText && t.path.all (·.isText)

def Target.Speaks (Q : String → Prop) (t : Target) : Prop :=
  t.spot.element.name.IsTextOf Q ∧ ∀ n ∈ t.path, n.IsTextOf Q

theorem Target.isPlain_iff {t : Target} : t.isPlain = true ↔
    t.spot.element.name.isText = true ∧ ∀ n ∈ t.path, n.isText = true := by
  simp [isPlain]

namespace Sheet
variable {given : List String} {s : Sheet} {l : String}

theorem whole_indented (hunit : Whole given s.unit) (hl : Whole given l) :
    Whole given (s.indented l) := by
  unfold indented margin
  split
  · exact .of_encodable (by decide)
  · exact (Whole.join fun t ht => by rwa [List.eq_of_mem_replicate ht]).append hl

end Sheet

structure Emit.Bench.IsWhole (given : List String) (b : Emit.Bench) : Prop where
  found : b.found = .ok none
  unit : Whole given b.sheet.unit
  lines : ∀ l ∈ b.sheet.lines, Whole given l

namespace Emit.Composing
variable {α β : Type} {given : List String}

/-- While no directory of templates is found, a step comes to its end. It puts no halves on the
sheet but given ones. -/
def Completes (given : List String) (x : Composing α) : Prop :=
  ∀ b : Bench, b.IsWhole given → ∃ a b', x.run.run b = (.ok a, b') ∧ b'.IsWhole given

namespace Completes

theorem bind {x : Composing α} {f : α → Composing β} (hx : Completes given x)
    (hf : ∀ a, Completes given (f a)) : Completes given (x >>= f) := by
  intro b hb
  obtain ⟨a, b', hrun, hb'⟩ := hx b hb
  rw [run_bind, hrun]
  exact hf a b' hb'

theorem pure (a : α) : Completes given (Pure.pure a : Composing α) := fun b hb => ⟨a, b, rfl, hb⟩

theorem note (n : Note) : Completes given (Composing.note n) :=
  fun _ hb => ⟨(), _, rfl, hb.found, hb.unit, hb.lines⟩

theorem indent : Completes given Composing.indent :=
  fun _ hb => ⟨(), _, rfl, hb.found, hb.unit, hb.lines⟩

theorem outdent : Completes given Composing.outdent :=
  fun _ hb => ⟨(), _, rfl, hb.found, hb.unit, hb.lines⟩

theorem writeAll {ls : List String} (h : ∀ l ∈ ls, Whole given l) :
    Completes given (Composing.onSheet (·.writeAll ls)) := by
  intro b hb
  refine ⟨(), _, rfl, hb.found, hb.unit, List.forall_mem_append.2 ⟨hb.lines, ?_⟩⟩
  rw [List.forall_mem_map]
  exact fun l hl => Sheet.whole_indented hb.unit (h l hl)

theorem line {s : String} (h : Whole given s) : Completes given (Composing.line s) :=
  writeAll (List.forall_mem_singleton.2 h)

theorem skip : Completes given Composing.skip := line (.of_encodable (by decide))

end Completes
end Emit.Composing

namespace Emit.Workshop
open Composing Layout Template
variable {given : List String} {w : Workshop} {template : String} {vars : Keyed String Value}
  {facts : Facts} {owned : List Element}

theorem completes_part {text : String} (h : w.Renders template vars text)
    (htext : Whole given text) : Completes given (w.part template vars) := by
  intro b hb
  obtain ⟨supply, hshelf, -⟩ := w.run_shelf template hb.found b.supply.fits_none
  rw [part, run_bind, hshelf]
  dsimp only
  rw [show (Supply.shelfOf none).render template (w.common.update vars) = .ok text from h]
  exact Completes.writeAll htext.splitLines _ ⟨hb.found, hb.unit, hb.lines⟩

theorem completes_part_intercalate {ls : List String}
    (h : w.Renders template vars ("\n".intercalate ls)) (hls : ∀ l ∈ ls, Whole given l) :
    Completes given (w.part template vars) :=
  completes_part h ((composes_whole given).intercalate (.of_encodable (by decide)) hls)

theorem completes_part_join {ls : List String}
    (h : w.Renders template vars (String.join (ls.map (· ++ "\n"))))
    (hls : ∀ l ∈ ls, Whole given l) : Completes given (w.part template vars) := by
  refine completes_part h (Whole.join ?_)
  rw [List.forall_mem_map]
  exact fun l hl => (hls l hl).append (.of_encodable (by decide))

theorem whole_indentUnit (o : Options) : Whole given o.indentUnit := by
  rw [Options.indentUnit]
  split
  · exact .of_encodable (by decide)
  · refine .of_encodable ?_
    rw [String.toList_ofList]
    exact Text.encodable_replicate (by decide) _

theorem completes_writeDoc (w : Workshop) {doc : Json} (h : doc.IsTextOf (Whole given)) :
    Completes given (w.writeDoc doc) := by
  obtain ⟨s, rfl, hs⟩ := h
  unfold writeDoc
  split
  · have hdoc : (Json.text s).isDoc = true := by simp [Json.isDoc, Json.isText]
    rw [ofMisuse_bind (docText_eq hdoc)]
    split
    · rename_i hne
      exact completes_part_join (w.renders_fenced (splitLines_ne_nil hne))
        ((composes_whole given).of_fenced hs.trimText.splitLines)
    · exact .pure ()
  · exact .pure ()

theorem accessor_of_isText {a : Attribute} (hname : a.name.isText = true)
    (htype : a.type.isText = true) :
    accessor a = .ok [("name", .plain a.name.display), ("type", .plain a.type.display),
      ("fragment", .plain (capitalized a.name.display))] := by
  obtain ⟨s, hs⟩ := Json.eq_of_isText hname
  unfold accessor Naming.accessorFragment
  rw [Json.ofJson_of_isText htype, hs, Naming.formatName_text]
  rfl

theorem completes_writeAccessors (w : Workshop) {layout : String → String → List String}
    (hrenders : ∀ name type, w.Renders template [("name", .plain name), ("type", .plain type),
      ("fragment", .plain (capitalized name))] ("\n".intercalate (layout name type)))
    (hlayout : ∀ name type, Whole given name → Whole given type →
      ∀ l ∈ layout name type, Whole given l)
    {attributes : List Attribute}
    (h : ∀ a ∈ attributes, a.name.IsTextOf (Whole given) ∧ a.type.IsTextOf (Whole given)) :
    Completes given (w.writeAccessors template attributes) := by
  induction attributes with
  | nil => exact .skip
  | cons a r ih =>
    obtain ⟨⟨hname, htype⟩, hr⟩ := List.forall_mem_cons.1 h
    rw [writeAccessors]
    split
    · rw [ofMisuse_bind (accessor_of_isText hname.isText htype.isText)]
      exact .bind (completes_part_intercalate (hrenders _ _)
        (hlayout _ _ hname.display htype.display)) fun _ => ih hr
    · exact ih hr

theorem whole_displays {α : Type} {xs : List α} {f : α → Json}
    (h : ∀ x ∈ xs, (f x).IsTextOf (Whole given)) :
    ∀ s ∈ xs.map fun x => (f x).display, Whole given s := by
  rw [List.forall_mem_map]
  exact fun x hx => (h x hx).display

theorem completes_writeMethods (w : Workshop) {operations : List Operation}
    (h : ∀ o ∈ operations, o.name.IsTextOf (Whole given) ∧ o.doc.IsTextOf (Whole given) ∧
      ∀ p ∈ o.parameters, p.name.IsTextOf (Whole given)) :
    Completes given (w.writeMethods operations) := by
  induction operations with
  | nil => exact .pure ()
  | cons o r ih =>
    obtain ⟨⟨hname, hdoc, hparameters⟩, hr⟩ := List.forall_mem_cons.1 h
    have hinputs : ∀ p ∈ o.inputs, p.name.IsTextOf (Whole given) :=
      fun p hp => hparameters p (List.mem_filter.1 hp).1
    rw [writeMethods]
    refine .bind ?_ fun _ => ih hr
    unfold writeMethod
    split
    · exact .note _
    · rw [Json.ofJson_of_isText hname.isText,
        Json.map_ofJson_of_isText fun p hp => (hinputs p hp).isText]
      refine .bind (completes_part_join (w.renders_signature _ _ _)
        ((composes_whole given).of_signature hname.display (whole_displays hinputs))) fun _ => ?_
      refine .bind .indent fun _ => .bind (w.completes_writeDoc hdoc) fun _ => ?_
      exact .bind (.line (.of_encodable (by decide))) fun _ => .bind .outdent fun _ => .skip

theorem completes_writeImports (w : Workshop) {targets : List Target}
    (h : ∀ t ∈ targets, t.Speaks (Whole given)) : Completes given (w.writeImports targets) := by
  induction targets with
  | nil => exact .pure ()
  | cons t r ih =>
    obtain ⟨⟨hname, hpath⟩, hr⟩ := List.forall_mem_cons.1 h
    rw [writeImports, Json.ofJson_of_isText hname.isText,
      Json.map_ofJson_of_isText fun n hn => (hpath n hn).isText]
    refine .bind (completes_part (w.renders_import _ _) ?_) fun _ => ih hr
    exact (composes_whole given).of_importLine (whole_displays hpath) hname.display

theorem completes_writeMembers (w : Workshop) {className : String} {isInterface : Bool}
    {attributes : List Attribute} {operations : List Operation} (hname : Whole given className)
    (h : (Shape.classifier isInterface attributes operations).Speaks (Whole given)) :
    Completes given (w.writeMembers className
      (.node facts (.classifier isInterface attributes operations) owned)) := by
  obtain ⟨hattributes, hoperations⟩ := h
  have hunit : Whole given w.options.indentUnit := whole_indentUnit _
  have hK := composes_whole given
  simp only [writeMembers, writeSetters, writeGetters, members, Element.members?, Element.shape,
    pure_bind]
  split
  · exact .line (.of_encodable (by decide))
  · refine .bind (completes_part_intercalate w.renders_put (hK.of_put hunit)) fun _ => ?_
    refine .bind .skip fun _ => .bind (w.completes_writeAccessors w.renders_setter
      (fun _ _ => hK.of_setter hunit) hattributes) fun _ => ?_
    refine .bind (w.completes_writeAccessors w.renders_getter
      (fun _ _ => hK.of_getter hunit) hattributes) fun _ => .bind .skip fun _ => ?_
    refine .bind
      (completes_part_intercalate (w.renders_save _) (hK.of_save hunit hname)) fun _ => ?_
    exact .bind .skip fun _ => w.completes_writeMethods hoperations

theorem typeName_of_isText (h : facts.name.isText = true) :
    w.typeName facts.name = .ok (w.className facts) := by
  obtain ⟨s, hs⟩ := Json.eq_of_isText h
  unfold typeName Naming.typeName
  rw [className, hs, Naming.formatName_text]
  rfl

/-- What is composed of a class once its inherited elements are known. -/
theorem completes_writeClass {isInterface : Bool} {attributes : List Attribute}
    {operations : List Operation} {e : Element} {targets : List Target}
    (he : e = .node facts (.classifier isInterface attributes operations) owned)
    (hlead : Whole given w.options.namePrefix) (hbase : Whole given w.options.baseClass)
    (hname : e.name.IsTextOf (Whole given)) (hdoc : e.facts.doc.IsTextOf (Whole given))
    (hshape : e.shape.Speaks (Whole given)) (htargets : w.snapshot.targets e = .ok (.ok targets))
    (hspeak : ∀ t ∈ targets, t.Speaks (Whole given)) : Completes given (w.writeClass e) := by
  have hK := composes_whole given
  have hknown : w.targets e = pure targets := by
    rw [Workshop.targets, htargets]
    rfl
  have hnamed : w.typeName e.name = .ok (w.className e.facts) := typeName_of_isText hname.isText
  have hclass : Whole given (w.className e.facts) := hlead.append hname.display.capitalized
  have hmembers : Completes given (w.writeMembers (w.className e.facts) e) := by
    rw [he] at hshape hclass ⊢
    exact w.completes_writeMembers hclass hshape
  have hinherited : ∀ t ∈ targets, t.spot.element.name.IsTextOf (Whole given) :=
    fun t ht => (hspeak t ht).1
  unfold writeClass
  rw [hknown, pure_bind, ofMisuse_bind hnamed]
  refine .bind (completes_part_intercalate w.renders_header hK.of_header) fun _ => ?_
  refine .bind .skip fun _ => ?_
  rw [Json.map_ofJson_of_isText fun t ht => (hinherited t ht).isText,
    Json.ofJson_of_isText hname.isText]
  split
  case' isTrue => refine .bind (w.completes_writeImports hspeak) fun _ => .bind .skip fun _ => ?_
  -- the rest of the page is the same with and without imports
  all_goals
    refine .bind (completes_part (w.renders_declaration _ _ _)
      (hK.of_declaration hclass hbase (whole_displays hinherited))) fun _ => ?_
    refine .bind .skip fun _ => .bind .indent fun _ => ?_
    refine .bind (completes_part_intercalate (w.renders_constructors _ _)
      (hK.of_constructors (whole_indentUnit _) hclass hname.display)) fun _ => ?_
    refine .bind (w.completes_writeDoc hdoc) fun _ => .bind hmembers fun _ => ?_
    refine .bind .outdent fun _ => .bind .skip fun _ => ?_
    exact .bind (.line (.of_encodable (by decide))) fun _ => .skip

theorem completes_writeLiterals (number : Nat) {ls : List Json}
    (h : ∀ l ∈ ls, l.IsTextOf (Whole given)) : Completes given (writeLiterals number ls) := by
  induction ls generalizing number with
  | nil => exact .pure ()
  | cons l r ih =>
    obtain ⟨hl, hr⟩ := List.forall_mem_cons.1 h
    have hnumbered := (hl.display.append (.of_encodable (s := " = ") (by decide))).append
      (Stems.whole (.number number))
    exact .bind (.line hnumbered) fun _ => ih _ hr

theorem renders_enumHeader (w : Workshop) :
    w.Renders "enum_file_header.dart.j2" [] "\nfrom enum import Enum" :=
  renders_of_writes rfl rfl rfl (.of_eq (.text .nil) rfl)

theorem renders_enumDeclaration (w : Workshop) (name : String) :
    w.Renders "enum_declaration.dart.j2" [("name", .plain name)]
      ("class " ++ name ++ "(Enum):") := by
  refine renders_of_writes rfl rfl rfl (.of_eq (.text <| .slot rfl <| .text .nil) ?_)
  simp [String.append_assoc]

theorem completes_writeEnum {ls : List Json} {e : Element}
    (he : e = .node facts (.enumeration ls) owned) (hname : e.name.IsTextOf (Whole given))
    (hdoc : e.facts.doc.IsTextOf (Whole given)) (hshape : e.shape.Speaks (Whole given)) :
    Completes given (w.writeEnum e) := by
  have hliterals : literals e = pure ls := by
    rw [he]
    rfl
  have hnumbered : ∀ l ∈ ls, l.IsTextOf (Whole given) := by
    rw [he] at hshape
    exact hshape
  have hdeclaration : Whole given ("class " ++ e.name.display ++ "(Enum):") :=
    (Whole.append (.of_encodable (by decide)) hname.display).append (.of_encodable (by decide))
  unfold writeEnum
  rw [hliterals, Json.ofJson_of_isText hname.isText]
  refine .bind (completes_part w.renders_enumHeader (.of_encodable (by decide))) fun _ => ?_
  refine .bind .skip fun _ => ?_
  refine .bind (completes_part (w.renders_enumDeclaration _) hdeclaration) fun _ => ?_
  refine .bind .indent fun _ => .bind (w.completes_writeDoc hdoc) fun _ => ?_
  rw [pure_bind]
  split
  · exact .bind (.line (.of_encodable (by decide))) fun _ => .bind .outdent fun _ => .skip
  · exact .bind (completes_writeLiterals 1 hnumbered) fun _ => .bind .outdent fun _ => .skip

theorem exists_page {compose : Composing Unit} (h : Completes given compose) (supply : Supply) :
    ∃ text, (w.page (.ok none) supply compose).1 = .ok text ∧ Whole given text := by
  obtain ⟨a, b', hrun, hb'⟩ := h ⟨{ unit := w.options.indentUnit }, [], supply, .ok none⟩
    ⟨rfl, whole_indentUnit _, List.forall_mem_nil _⟩
  refine ⟨b'.sheet.text, ?_, ?_⟩
  · unfold page
    rw [hrun]
    rfl
  · exact (composes_whole given).intercalate (.of_encodable (by decide)) hb'.lines

end Emit.Workshop
end UmlPress
