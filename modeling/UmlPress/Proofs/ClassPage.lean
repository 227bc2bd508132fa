import Mathlib.Data.List.Forall2
import UmlPress.Proofs.Printing
import UmlPress.Proofs.Tour

/-!
# The page of a class

Where all inheritance edges lead to an element, and all names are lines, the page
of a class is the one that the layout describes.
-/
namespace UmlPress

def Edge.isInheritanceOf (edge : Edge) (e : Element) : Bool :=
  edge.source.equals e.id && edge.kind.inherits

namespace Snapshot
variable {s : Snapshot} {e : Element}

def Resolves (s : Snapshot) (edge : Edge) (t : Target) : Prop :=
  s.find edge.target = .ok (some t.spot) ∧ s.qualifiedPath t.spot.element = .ok t.path

/-- The targets of an element are one for each of its inheritance edges. -/
theorem targetsOf_of_resolves {edges : List Edge} {targets : List Target}
    (h : List.Forall₂ s.Resolves (edges.filter (·.isInheritanceOf e)) targets) :
    s.targetsOf e edges = .ok (.ok targets) := by
  induction edges generalizing targets with
  | nil =>
    cases h
    rfl
  | cons edge r ih =>
    rw [targetsOf, ← Edge.isInheritanceOf]
    cases hi : edge.isInheritanceOf e with
    | false =>
      rw [List.filter_cons_of_neg (by simp [hi])] at h
      exact ih h
    | true =>
      rw [List.filter_cons_of_pos (by simp [hi])] at h
      obtain _ | ⟨⟨hfind, hpath⟩, hr⟩ := h
      rw [if_pos rfl, hfind]
      simp only [bind, Except.bind, hpath, ih hr]
      rfl

end Snapshot

namespace Emit.Workshop
open Layout Composing

/-- All that is put into the layout of a class page is a line, but for the
documentations, which may be any texts. -/
structure IsLinedClass (w : Workshop) (facts : Facts) (attributes : List Attribute)
    (operations : List Operation) (targets : List Target) : Prop where
  namePrefix : IsLine w.options.namePrefix
  baseClass : IsLine w.options.baseClass
  name : facts.name.isLine = true
  doc : facts.doc.isDoc = true
  attributes : ∀ a ∈ attributes, a.isLined = true
  operations : ∀ o ∈ operations, o.isLined = true
  targets : ∀ t ∈ targets, t.isLined = true

variable {w : Workshop} {facts : Facts} {isInterface : Bool} {attributes : List Attribute}
  {operations : List Operation} {owned : List Element} {targets : List Target}

theorem targets_eq_pure {e : Element} (h : w.snapshot.targets e = .ok (.ok targets)) :
    w.targets e = pure targets := by
  rw [Workshop.targets, h]
  rfl

theorem typeName_of_isLine (h : facts.name.isLine = true) :
    w.typeName facts.name = .ok (w.className facts) := by
  obtain ⟨s, hs, -⟩ := Json.exists_of_isLine h
  unfold typeName Naming.typeName
  rw [className, hs, Naming.formatName_text]
  rfl

theorem isLine_className (h : w.IsLinedClass facts attributes operations targets) :
    IsLine (w.className facts) :=
  isLine_append.2 ⟨h.namePrefix, composes_isLine.capitalized (Json.isLine_display h.name)⟩

theorem prints_header (w : Workshop) (unit : String) :
    Prints unit 0 (w.part "class_file_header.dart.j2" []) header 0 :=
  prints_part_intercalate w.renders_header composes_isLine.of_header (by simp [header]) unit 0

theorem prints_declaration (h : w.IsLinedClass facts attributes operations targets)
    (unit : String) :
    Prints unit 0 (w.part "class_declaration.dart.j2" [("class_name", .plain (w.className facts)),
      ("base_class", .plain w.options.baseClass),
      ("inherits", .list (targets.map fun t => .ofJson t.spot.element.name))])
      [declaration (w.className facts) w.options.baseClass
        (targets.map (·.spot.element.name.display))] 0 := by
  have hinherited : ∀ s ∈ targets.map (·.spot.element.name.display), IsLine s := by
    intro s hs
    obtain ⟨t, ht, rfl⟩ := List.mem_map.1 hs
    exact Json.isLine_display (Target.isLined_iff.1 (h.targets t ht)).1
  rw [map_ofJson_of_isLine fun t ht => (Target.isLined_iff.1 (h.targets t ht)).1]
  exact prints_part_line (w.renders_declaration _ _ _)
    (composes_isLine.of_declaration (isLine_className h) h.baseClass hinherited)
      (by simp [declaration]) unit 0

theorem prints_constructors (h : w.IsLinedClass facts attributes operations targets) (depth : Nat) :
    Prints w.options.indentUnit depth (w.part "constructors.dart.j2"
      [("class_name", .plain (w.className facts)), ("raw_name", .ofJson facts.name)])
      (insetBy w.options.indentUnit depth
        (constructors w.options.indentUnit (w.className facts) facts.name.display)) depth := by
  rw [ofJson_of_isLine h.name]
  exact prints_part_intercalate (w.renders_constructors _ _)
    (composes_isLine.of_constructors (isLine_indentUnit _) (isLine_className h)
      (Json.isLine_display h.name))
    (by simp [constructors]) w.options.indentUnit depth

/-- The whole page is printed from its parts. -/
theorem prints_writeClass (h : w.IsLinedClass facts attributes operations targets)
    (htargets : w.snapshot.targets (.node facts (.classifier isInterface attributes operations)
      owned) = .ok (.ok targets)) :
    Prints w.options.indentUnit 0
      (w.writeClass (.node facts (.classifier isInterface attributes operations) owned))
      (w.classLines facts attributes operations targets) 0 := by
  have hheader := w.prints_header w.options.indentUnit
  have hmembers : Prints w.options.indentUnit 1 (w.writeMembers (w.className facts)
      (.node facts (.classifier isInterface attributes operations) owned)) _ 1 :=
    w.prints_writeMembers (isLine_className h) h.attributes h.operations
  -- the class itself, which is the same with and without imports
  have hclass := (prints_declaration h w.options.indentUnit).bind <| Prints.skip.bind <|
    Prints.indent.bind <| (prints_constructors h 1).bind <|
    (w.prints_writeDoc h.doc w.options.indentUnit).bind <| hmembers.bind <|
    Prints.outdent.bind <| Prints.skip.bind <| (Prints.line "\x7d").bind Prints.skip
  have hown : (Element.node facts (.classifier isInterface attributes operations) owned).name =
      facts.name := rfl
  rw [writeClass, targets_eq_pure htargets, pure_bind, hown,
    ofMisuse_bind (typeName_of_isLine h.name)]
  by_cases hs : targets = []
  · subst hs
    refine (hheader.bind (Prints.skip.bind hclass)).of_eq ?_
    simp [classLines, importLines, insetBy, inset_append]
  · have himports := w.prints_writeImports h.targets w.options.indentUnit 0
    have hsome : targets.isEmpty = false := by simpa using hs
    simp only [hsome, Bool.not_false, if_true]
    refine (hheader.bind <| Prints.skip.bind <| himports.bind <| Prints.skip.bind hclass).of_eq ?_
    simp [classLines, importLines, hs, insetBy, inset_append]

theorem page_of_prints {compose : Composing Unit} {ls : List String} {depth : Nat}
    (h : Prints w.options.indentUnit 0 compose ls depth) (supply : Supply) :
    (w.page (.ok none) supply compose).1 = .ok ("\n".intercalate ls) := by
  obtain ⟨notes', supply', hrun⟩ := h [] [] supply
  unfold page
  rw [hrun]
  rfl

/-- The page of a class or an interface whose inheritance edges all lead to an
element has exactly the lines of the layout. If there is no directory of
templates, it is what the element's file is written with. -/
theorem class_page_layout (w : Workshop) (base : Path) (supply : Supply) (facts : Facts)
    (isInterface : Bool) (attributes : List Attribute) (operations : List Operation)
    (owned : List Element) (targets : List Target) (hdirectory : directory? w.options = none)
    (hresolved : List.Forall₂ w.snapshot.Resolves
      (w.snapshot.edges.filter (·.isInheritanceOf
        (.node facts (.classifier isInterface attributes operations) owned))) targets)
    (hlined : w.IsLinedClass facts attributes operations targets) :
    let e := Element.node facts (.classifier isInterface attributes operations) owned
    let text := "\n".intercalate (w.classLines facts attributes operations targets)
    (w.page (.ok none) supply (w.writeClass e)).1 = .ok text ∧
      ∀ calls result supply', (w.emit base supply e).Yields calls (result, supply') →
        ∃ answer, calls =
            [.write (base.child (w.className facts ++ w.options.fileExtension)) text answer] ∧
          result = answer.map fun _ =>
            { generated := [base.child (w.className facts ++ w.options.fileExtension)] } := by
  intro e text
  have hpage : (w.page (.ok none) supply (w.writeClass e)).1 = .ok text :=
    page_of_prints (prints_writeClass hlined (Snapshot.targetsOf_of_resolves hresolved)) supply
  have hname : w.fileName e = .ok (w.className facts ++ w.options.fileExtension) := by
    have hown : e.name = facts.name := rfl
    rw [fileName, hown, typeName_of_isLine hlined.name]
    rfl
  refine ⟨hpage, fun calls result supply' h => ?_⟩
  have hemit : w.emit base supply e = w.emitFile base supply e (w.writeClass e) := by rw [emit]
  rw [hemit] at h
  obtain ⟨found, hfound, -, hcases⟩ := yields_emitFile h
  rw [hfound hdirectory, hpage, hname] at hcases
  rcases hcases with ⟨t, ht, -⟩ | ⟨m, hm, -⟩ | ⟨content, name, answer, hc, hn, rfl, rfl⟩
  · cases ht
  · cases hm
  · cases hc
    cases hn
    exact ⟨answer, rfl, rfl⟩

def orderFacts : Facts := ⟨.text "o", .text "order", .text " First.\n\n  Second.\r\n"⟩

def orderAttributes : List Attribute :=
  [⟨.text "total", .text "int", false⟩, ⟨.text "count", .text "int", true⟩]

def orderOperations : List Operation :=
  [⟨.text "open", .text "Opens.", true, [⟨.text "at", .text "", .text "in"⟩,
    ⟨.text "", .text "bool", .text "return"⟩]⟩, ⟨.text "", .text "", false, []⟩]

def ordering : Workshop where
  snapshot :=
    let shop : Element := .node ⟨.text "s", .text "shop", .text ""⟩ .package
      [.node ⟨.text "q", .text "parts", .text ""⟩ .package [sampleClass "b" "bolt"],
        .node orderFacts (.classifier false orderAttributes orderOperations) []]
    { root := .node ⟨.text "p", .text "project", .text ""⟩ .package [shop]
      edges := [⟨.text "o", .text "b", .generalization⟩, ⟨.text "o", .text "b", .other "uses"⟩,
        ⟨.text "o", .text "b", .interfaceRealization⟩]
      base := ⟨[0], shop⟩ }
  options := { indentSpaces := 2, namePrefix := "My" }

/-- A class with members of every kind. -/
theorem class_page_layout_ordering :
    (ordering.page (.ok none) {} (ordering.writeClass
      (.node orderFacts (.classifier false orderAttributes orderOperations) []))).1 =
      .ok ("\n".intercalate
        ["import 'dart:async';", "",
          "import 'package:leancloud_functions/leancloud_functions.dart';", "",
          "from parts.bolt import Bolt", "from parts.bolt import Bolt", "",
          "class MyOrder extends AVObject (bolt, bolt)\x7b", "",
          "  MyOrder() : super(\"order\");", "",
          "  MyOrder.fromQueryBackString(String queriedString)",
          "    : super.fromQueryBackString(queriedString);",
          "  ///\"\"\"", "  First.", "", "    Second.", "  ///\"\"\"",
          "  void put(String key, Object value) \x7b", "    super.put(key, value);", "  \x7d", "",
          "  void setTotal(int total) \x7b", "    this.put(\"total\", total);", "  \x7d", "",
          "  int getTotal() \x7b", "    return super.get(\"total\");", "  \x7d", "", "",
          "  Future<MyOrder> save() async \x7b", "    super.save();", "    return this;", "  \x7d",
          "", "  @classmethod", "  def open(cls, at):", "    ///\"\"\"Opens.\"\"\"", "    pass", "",
          "", "\x7d", ""]) := by
  let bolt : Target := ⟨⟨[0, 0, 0], sampleClass "b" "bolt"⟩, [.text "parts", .text "bolt"]⟩
  have hbolt (kind : EdgeKind) :
      ordering.snapshot.Resolves ⟨.text "o", .text "b", kind⟩ bolt := by
    constructor <;> with_unfolding_all rfl
  have hlined : ordering.IsLinedClass orderFacts orderAttributes orderOperations [bolt, bolt] :=
    { namePrefix := by decide
      baseClass := by decide
      name := by decide
      doc := by decide
      attributes := List.all_eq_true.1 (by decide)
      operations := List.all_eq_true.1 (by decide)
      targets := List.all_eq_true.1 (by decide) }
  have hlayout := (class_page_layout ordering (.ofString "out") {} orderFacts false orderAttributes
    orderOperations [] [bolt, bolt] rfl (.cons (hbolt _) (.cons (hbolt _) .nil)) hlined).1
  rw [hlayout]
  exact congrArg _ (congrArg _ (by decide +kernel))

end Emit.Workshop
end UmlPress
