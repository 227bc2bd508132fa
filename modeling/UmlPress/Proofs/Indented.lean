import UmlPress.Proofs.EnumPage
import UmlPress.Proofs.Numerals

/-!
# The lines of a written page

A page is written line by line, but what is written as a line may have line breaks in it, and who
reads the page sees the lines between all breaks. In the body of a class every one of them is
moved in, whatever the texts in it are, because all that comes from the model is split before it
is written. The literals of an enumeration are not: what stands behind a break in one of them
stands at the margin.
-/
namespace UmlPress

namespace Text

theorem consLine_append {c : Char} {ls : List (List Char)} (h : ls ≠ []) (ms : List (List Char)) :
    consLine c (ls ++ ms) = consLine c ls ++ ms := by
  cases ls with
  | nil => exact absurd rfl h
  | cons l ls => rfl

theorem lines_cons_of_isBreak {c : Char} {s : List Char} (h : isBreak c = true)
    (hno : c = '\r' → s.head? ≠ some '\n') : lines (c :: s) = [] :: lines s := by
  rw [lines, if_pos h]
  rintro r rfl rfl
  exact hno rfl rfl

/-- A line feed ends a line, or is one break with what stands in front of it. -/
theorem lines_append (s t : List Char) :
    lines (s ++ '\n' :: t) = lines (s ++ ['\n']) ++ lines t := by
  fun_induction lines s with
  | case1 => rfl
  | case2 r ih =>
    rw [List.cons_append, List.cons_append, List.cons_append, List.cons_append]
    exact congrArg ([] :: ·) ih
  | case3 c r hno hc ih =>
    -- a carriage return at the end and the line feed are one break
    by_cases hreturn : c = '\r' ∧ r = []
    · obtain ⟨rfl, rfl⟩ := hreturn
      rfl
    · have hhead (u : List Char) : c = '\r' → (r ++ '\n' :: u).head? ≠ some '\n' := by
        rintro rfl
        cases r with
        | nil => exact absurd ⟨rfl, rfl⟩ hreturn
        | cons d r => exact fun heq => hno r rfl (by rw [Option.some.inj heq])
      rw [List.cons_append, List.cons_append, lines_cons_of_isBreak hc (hhead t),
        lines_cons_of_isBreak hc (hhead []), ih, List.cons_append]
  | case4 c r hno hc ih =>
    rw [Bool.not_eq_true] at hc
    rw [List.cons_append, List.cons_append, lines_cons_of_not_isBreak hc,
      lines_cons_of_not_isBreak hc, ih, consLine_append]
    exact lines_ne_nil (by simp)

/-- Behind a character that is no break a line feed at the end adds no line. -/
theorem lines_append_newline_of_getLast? {s : List Char} {d : Char} (hlast : s.getLast? = some d)
    (hd : isBreak d = false) : lines (s ++ ['\n']) = lines s := by
  fun_induction lines s with
  | case1 => cases hlast
  | case2 r ih =>
    cases r with
    | nil =>
      cases hlast
      cases hd
    | cons e r => exact congrArg ([] :: ·) (ih (by simpa using hlast))
  | case3 c r hno hc ih =>
    cases r with
    | nil =>
      obtain rfl : c = d := by simpa using hlast
      rw [hc] at hd
      cases hd
    | cons e r =>
      have hhead : c = '\r' → (e :: r ++ ['\n']).head? ≠ some '\n' :=
        fun hreturn heq => hno r hreturn (by rw [Option.some.inj heq])
      rw [List.cons_append, lines_cons_of_isBreak hc hhead, ih (by simpa using hlast)]
  | case4 c r hno hc ih =>
    rw [Bool.not_eq_true] at hc
    rw [List.cons_append, lines_cons_of_not_isBreak hc]
    cases r with
    | nil => rfl
    | cons e r => rw [ih (by simpa using hlast)]

/-- What is put in front of a text stands in front of its first line. -/
theorem lines_append_of_unbroken {u : List Char} (h : Unbroken u) {s : List Char} (hs : s ≠ []) :
    ∃ first rest, lines s = first :: rest ∧ lines (u ++ s) = (u ++ first) :: rest := by
  obtain ⟨first, rest, hlines⟩ := List.exists_cons_of_ne_nil (lines_ne_nil hs)
  refine ⟨first, rest, hlines, ?_⟩
  induction u with
  | nil => exact hlines
  | cons c r ih =>
    obtain ⟨hc, hr⟩ := List.forall_mem_cons.1 h
    rw [List.cons_append, lines_cons_of_not_isBreak hc, ih hr]
    rfl

end Text

/-! Pages. -/

theorem intercalate_append_empty (ls : List String) :
    "\n".intercalate (ls ++ [""]) = String.join (ls.map (· ++ "\n")) := by
  induction ls with
  | nil => rfl
  | cons l r ih =>
    rw [List.map_cons, String.join_cons, ← ih]
    cases r with
    | nil => simp
    | cons m r =>
      rw [List.cons_append, List.cons_append, String.intercalate_cons_cons]

/-- The lines of a page that ends with an empty line are those of all that is written on it as a
line. -/
theorem splitLines_page (ls : List String) : splitLines ("\n".intercalate (ls ++ [""])) =
    ls.flatMap fun l => splitLines (l ++ "\n") := by
  rw [intercalate_append_empty]
  induction ls with
  | nil => rfl
  | cons l r ih =>
    have hlines (t : String) : splitLines (l ++ "\n" ++ t) =
        splitLines (l ++ "\n") ++ splitLines t := by
      simp only [splitLines, String.toList_append, List.append_assoc]
      rw [← List.map_append]
      exact congrArg _ (Text.lines_append l.toList t.toList)
    rw [List.map_cons, String.join_cons, hlines, ih, List.flatMap_cons]

theorem splitLines_page_of_isLine {ls : List String} (h : ∀ l ∈ ls, IsLine l) :
    splitLines ("\n".intercalate (ls ++ [""])) = ls := by
  rw [intercalate_append_empty, splitLines_join h]

theorem flatMap_splitLines_of_isLine {ls : List String} (h : ∀ l ∈ ls, IsLine l) :
    (ls.flatMap fun l => splitLines (l ++ "\n")) = ls := by
  rw [← splitLines_page, splitLines_page_of_isLine h]

def IsInset (unit l : String) : Prop := l = "" ∨ unit.toList <+: l.toList

instance (unit l : String) : Decidable (IsInset unit l) := inferInstanceAs (Decidable (_ ∨ _))

/-- Of a text that is moved in and written as a line, the first line is moved in and the others
are as they stand in the text. -/
theorem splitLines_moved {unit s : String} (hunit : IsLine unit) {d : Char}
    (hlast : s.toList.getLast? = some d) (hd : Text.isBreak d = false) :
    ∃ first, splitLines (unit ++ s ++ "\n") = (unit ++ first) :: (splitLines s).tail := by
  have hs : s.toList ≠ [] := by
    intro hnil
    rw [hnil] at hlast
    cases hlast
  obtain ⟨first, rest, hlines, hmoved⟩ := Text.lines_append_of_unbroken hunit hs
  have hend : (unit.toList ++ s.toList).getLast? = some d := by
    rw [List.getLast?_append_of_ne_nil _ hs, hlast]
  refine ⟨.ofList first, ?_⟩
  have htext : (unit ++ s ++ "\n").toList = unit.toList ++ s.toList ++ ['\n'] := by simp
  rw [splitLines, htext, Text.lines_append_newline_of_getLast? hend hd, hmoved, splitLines, hlines]
  simp

theorem isLine_toString (n : Nat) : IsLine (toString n) := by
  intro c hc
  have hmem : c ∈ Nat.toDigits 10 n := by simpa using hc
  obtain ⟨hfirst, hlast⟩ := Numeral.toNat_of_isDigit (Numeral.isDigit_of_mem_toDigits hmem)
  simp only [Text.isBreak, Text.within, List.any_cons, List.any_nil, Bool.or_false,
    Bool.or_eq_false_iff, Bool.and_eq_false_iff, decide_eq_false_iff_not]
  omega

theorem getLast?_numbered (s : String) (n : Nat) :
    ∃ d, (s ++ toString n).toList.getLast? = some d ∧ Text.isBreak d = false := by
  have hne : (toString n).toList ≠ [] := by simp
  obtain ⟨d, hd⟩ := Option.ne_none_iff_exists'.1 (mt List.getLast?_eq_none_iff.1 hne)
  refine ⟨d, ?_, isLine_toString n d (List.mem_of_getLast? hd)⟩
  rw [String.toList_append, List.getLast?_append_of_ne_nil _ hne, hd]

namespace Layout
variable {unit : String} {depth : Nat} {ls : List String}

theorem isInset_inset {l : String} (h : l ∈ inset unit ls) : IsInset unit l := by
  obtain ⟨m, -, rfl⟩ := List.mem_map.1 h
  split
  · exact .inl rfl
  · exact .inr (by simp)

theorem isLine_inset (hunit : IsLine unit) (h : ∀ l ∈ ls, IsLine l) :
    ∀ l ∈ inset unit ls, IsLine l := by
  intro l hl
  obtain ⟨m, hm, rfl⟩ := List.mem_map.1 hl
  split
  · decide
  · exact isLine_append.2 ⟨hunit, h m hm⟩

theorem insetBy_succ (depth : Nat) (ls : List String) :
    insetBy unit (depth + 1) ls = inset unit (insetBy unit depth ls) := by
  induction depth generalizing ls with
  | zero => rfl
  | succ depth ih => rw [insetBy, ih, insetBy]

theorem isLine_insetBy (hunit : IsLine unit) (h : ∀ l ∈ ls, IsLine l) :
    ∀ l ∈ insetBy unit depth ls, IsLine l := by
  induction depth with
  | zero => exact h
  | succ depth ih =>
    rw [insetBy_succ]
    exact isLine_inset hunit ih

end Layout

namespace Emit.Composing
open Layout
variable {unit : String} {depth depth' depth'' : Nat} {x y : Composing Unit}

def Insets (unit : String) (depth : Nat) (x : Composing Unit) (depth' : Nat) : Prop :=
  ∃ ls, Prints unit depth x ls depth' ∧ ∀ l ∈ ls, IsLine l ∧ IsInset unit l

namespace Insets

theorem bind (hx : Insets unit depth x depth') (hy : Insets unit depth' y depth'') :
    Insets unit depth (x >>= fun _ => y) depth'' := by
  obtain ⟨ls, hls, hinset⟩ := hx
  obtain ⟨ms, hms, hinset'⟩ := hy
  exact ⟨ls ++ ms, hls.bind hms, List.forall_mem_append.2 ⟨hinset, hinset'⟩⟩

theorem of_nil (h : Prints unit depth x [] depth') : Insets unit depth x depth' :=
  ⟨[], h, List.forall_mem_nil _⟩

theorem pure : Insets unit depth (pure ()) depth := of_nil .pure

theorem note (n : Note) : Insets unit depth (Composing.note n) depth := of_nil (.note n)

theorem indent : Insets unit depth Composing.indent (depth + 1) := of_nil .indent

theorem outdent : Insets unit (depth + 1) Composing.outdent depth := of_nil .outdent

/-- Below the margin it is enough that the lines have no breaks. -/
theorem of_prints {ls : List String} (hunit : IsLine unit)
    (h : Prints unit (depth + 1) x (insetBy unit (depth + 1) ls) depth')
    (hls : ∀ l ∈ ls, IsLine l) : Insets unit (depth + 1) x depth' := by
  refine ⟨_, h, fun l hl => ⟨isLine_insetBy hunit hls l hl, ?_⟩⟩
  rw [insetBy_succ] at hl
  exact isInset_inset hl

theorem line (hunit : IsLine unit) {s : String} (h : IsLine s) :
    Insets unit (depth + 1) (Composing.line s) (depth + 1) :=
  of_prints hunit (.line s) (List.forall_mem_singleton.2 h)

theorem skip (hunit : IsLine unit) : Insets unit (depth + 1) Composing.skip (depth + 1) :=
  line hunit (by decide)

end Insets
end Emit.Composing

namespace Emit.Workshop
open Layout Composing Template
variable {w : Workshop} {depth : Nat} {template : String} {vars : Keyed String Value}
  {facts : Facts} {owned : List Element}

/-- Whatever a template writes is split into lines first. -/
theorem insets_part {unit text : String} (hunit : IsLine unit) (h : w.Renders template vars text) :
    Insets unit (depth + 1) (w.part template vars) (depth + 1) :=
  .of_prints hunit (prints_part h unit (depth + 1)) fun _ hl => isLine_of_mem_splitLines hl

theorem isLine_docLines (w : Workshop) (doc : Json) : ∀ l ∈ w.docLines doc, IsLine l := by
  unfold docLines
  split
  · exact composes_isLine.of_fenced fun l hl => isLine_of_mem_splitLines hl
  · exact List.forall_mem_nil _

theorem insets_writeDoc (w : Workshop) {unit : String} (hunit : IsLine unit) {doc : Json}
    (h : doc.isDoc = true) : Insets unit (depth + 1) (w.writeDoc doc) (depth + 1) :=
  .of_prints hunit (w.prints_writeDoc h unit) (w.isLine_docLines doc)

theorem insets_writeAccessors (w : Workshop) {unit : String} (hunit : IsLine unit)
    {layout : String → String → List String}
    (hrenders : ∀ name type, w.Renders template [("name", .plain name), ("type", .plain type),
      ("fragment", .plain (capitalized name))] ("\n".intercalate (layout name type)))
    {attributes : List Attribute}
    (h : ∀ a ∈ attributes, a.name.isText = true ∧ a.type.isText = true) :
    Insets unit (depth + 1) (w.writeAccessors template attributes) (depth + 1) := by
  induction attributes with
  | nil => exact .skip hunit
  | cons a r ih =>
    obtain ⟨⟨hname, htype⟩, hr⟩ := List.forall_mem_cons.1 h
    rw [writeAccessors]
    split
    · rw [ofMisuse_bind (accessor_of_isText hname htype)]
      exact (insets_part hunit (hrenders _ _)).bind (ih hr)
    · exact ih hr

theorem insets_writeMethods (w : Workshop) {unit : String} (hunit : IsLine unit)
    {operations : List Operation}
    (h : ∀ o ∈ operations, o.name.isText = true ∧ o.doc.isDoc = true ∧
      ∀ p ∈ o.parameters, p.name.isText = true) :
    Insets unit (depth + 1) (w.writeMethods operations) (depth + 1) := by
  induction operations with
  | nil => exact .pure
  | cons o r ih =>
    obtain ⟨⟨hname, hdoc, hparameters⟩, hr⟩ := List.forall_mem_cons.1 h
    have hinputs : ∀ p ∈ o.inputs, p.name.isText = true :=
      fun p hp => hparameters p (List.mem_filter.1 hp).1
    rw [writeMethods]
    refine .bind ?_ (ih hr)
    unfold writeMethod
    split
    · exact .note _
    · rw [Json.ofJson_of_isText hname, Json.map_ofJson_of_isText hinputs]
      refine .bind (insets_part hunit (w.renders_signature _ _ _)) (.bind .indent ?_)
      refine .bind (w.insets_writeDoc hunit hdoc) (.bind (.line hunit (by decide)) ?_)
      exact .bind .outdent (.skip hunit)

theorem insets_writeMembers (w : Workshop) {unit : String} (hunit : IsLine unit)
    (className : String) {isInterface : Bool} {attributes : List Attribute}
    {operations : List Operation}
    (h : (Shape.classifier isInterface attributes operations).isPlain = true) :
    Insets unit (depth + 1) (w.writeMembers className
      (.node facts (.classifier isInterface attributes operations) owned)) (depth + 1) := by
  simp only [Shape.isPlain, Bool.and_eq_true, List.all_eq_true, and_assoc] at h
  obtain ⟨hattributes, hoperations⟩ := h
  simp only [writeMembers, writeSetters, writeGetters, members, Element.members?, Element.shape,
    pure_bind]
  split
  · exact .line hunit (by decide)
  · refine .bind (insets_part hunit w.renders_put) (.bind (.skip hunit) ?_)
    refine .bind (w.insets_writeAccessors hunit w.renders_setter hattributes) ?_
    refine .bind (w.insets_writeAccessors hunit w.renders_getter hattributes) ?_
    refine .bind (.skip hunit) (.bind (insets_part hunit (w.renders_save _)) ?_)
    exact .bind (.skip hunit) (w.insets_writeMethods hunit hoperations)

/-! The pages. -/

def classHead (w : Workshop) (facts : Facts) (targets : List Target) : List String :=
  header ++ [""] ++
    (if targets = [] then [] else (targets.flatMap fun t => splitLines
      (importLine (t.path.map Json.display) t.spot.element.name.display)) ++ [""]) ++
    splitLines (declaration (w.className facts) w.options.baseClass
      (targets.map (·.spot.element.name.display)))

def enumHead (facts : Facts) : List String :=
  enumHeader ++ [""] ++ splitLines (enumDeclaration facts.name.display)

def brokenOff (ls : List Json) : List String :=
  (ls.zipIdx 1).flatMap fun p => (splitLines (p.1.display ++ " = " ++ toString p.2)).tail

theorem isLine_classHead (w : Workshop) (facts : Facts) (targets : List Target) :
    ∀ l ∈ w.classHead facts targets, IsLine l := by
  have hempty : ∀ l ∈ [""], IsLine l := by decide
  refine List.forall_mem_append.2 ⟨List.forall_mem_append.2
    ⟨List.forall_mem_append.2 ⟨composes_isLine.of_header, hempty⟩, ?_⟩,
    fun _ => isLine_of_mem_splitLines⟩
  split
  · exact List.forall_mem_nil _
  · refine List.forall_mem_append.2 ⟨fun l hl => ?_, hempty⟩
    obtain ⟨t, -, hl⟩ := List.mem_flatMap.1 hl
    exact isLine_of_mem_splitLines hl

theorem isLine_enumHead (facts : Facts) : ∀ l ∈ enumHead facts, IsLine l :=
  List.forall_mem_append.2 ⟨by decide, fun _ => isLine_of_mem_splitLines⟩

theorem prints_writeImports_split (w : Workshop) {targets : List Target}
    (h : ∀ t ∈ targets, t.isPlain = true) (unit : String) :
    Prints unit 0 (w.writeImports targets) (targets.flatMap fun t => splitLines
      (importLine (t.path.map Json.display) t.spot.element.name.display)) 0 := by
  induction targets with
  | nil => exact .pure
  | cons t r ih =>
    obtain ⟨ht, hr⟩ := List.forall_mem_cons.1 h
    obtain ⟨hname, hpath⟩ := Target.isPlain_iff.1 ht
    rw [writeImports, Json.ofJson_of_isText hname, Json.map_ofJson_of_isText hpath]
    exact (prints_part (w.renders_import _ _) unit 0).bind (ih hr)

/-- The page of a class is its head, lines that are moved in, and the line that closes it. -/
theorem exists_prints_writeClass {isInterface : Bool} {attributes : List Attribute}
    {operations : List Operation} {e : Element} {targets : List Target}
    (he : e = .node facts (.classifier isInterface attributes operations) owned)
    (hname : facts.name.isText = true) (hdoc : facts.doc.isDoc = true)
    (hshape : (Shape.classifier isInterface attributes operations).isPlain = true)
    (htargets : w.snapshot.targets e = .ok (.ok targets))
    (hplain : ∀ t ∈ targets, t.isPlain = true) :
    ∃ body, (∀ l ∈ body, IsLine l ∧ IsInset w.options.indentUnit l) ∧
      Prints w.options.indentUnit 0 (w.writeClass e)
        (w.classHead facts targets ++ body ++ ["\x7d"] ++ [""]) 0 := by
  have hunit := isLine_indentUnit w.options
  have hinherited : ∀ t ∈ targets, t.spot.element.name.isText = true :=
    fun t ht => (Target.isPlain_iff.1 (hplain t ht)).1
  have hconstructors := w.renders_constructors (w.className facts) facts.name.display
  obtain ⟨made, hmade, hmade'⟩ : Insets w.options.indentUnit 1 (w.part _ _) 1 :=
    insets_part hunit hconstructors
  obtain ⟨told, htold, htold'⟩ : Insets w.options.indentUnit 1 (w.writeDoc facts.doc) 1 :=
    w.insets_writeDoc hunit hdoc
  have hmembers : Insets w.options.indentUnit 1 (w.writeMembers (w.className facts) e) 1 := by
    rw [he]
    exact w.insets_writeMembers hunit _ hshape
  obtain ⟨inner, hinner, hinner'⟩ := hmembers
  have hempty : ∀ l ∈ [""], IsLine l ∧ IsInset w.options.indentUnit l :=
    List.forall_mem_singleton.2 ⟨by decide, .inl rfl⟩
  have hbody : ∀ l ∈ [""] ++ made ++ told ++ inner ++ [""],
      IsLine l ∧ IsInset w.options.indentUnit l := by
    simp only [List.forall_mem_append]
    exact ⟨⟨⟨⟨hempty, hmade'⟩, htold'⟩, hinner'⟩, hempty⟩
  refine ⟨[""] ++ made ++ told ++ inner ++ [""], hbody, ?_⟩
  have hheader := w.prints_header w.options.indentUnit
  have hdeclaration := prints_part (w.renders_declaration (w.className facts) w.options.baseClass
    (targets.map (·.spot.element.name.display))) w.options.indentUnit 0
  -- the class itself, which is the same with and without imports
  have hclass := hdeclaration.bind <| Prints.skip.bind <| Prints.indent.bind <| hmade.bind <|
    htold.bind <| hinner.bind <| Prints.outdent.bind <| Prints.skip.bind <|
    (Prints.line "\x7d").bind Prints.skip
  have hown : e.name = facts.name ∧ e.facts = facts := by
    rw [he]
    exact ⟨rfl, rfl⟩
  rw [writeClass, targets_eq_pure htargets, pure_bind, hown.1, hown.2,
    ofMisuse_bind (typeName_of_isText hname), Json.map_ofJson_of_isText hinherited,
    Json.ofJson_of_isText hname]
  by_cases hs : targets = []
  · subst hs
    refine (hheader.bind (Prints.skip.bind hclass)).of_eq ?_
    simp [classHead, insetBy]
  · have himports := w.prints_writeImports_split hplain w.options.indentUnit
    have hsome : targets.isEmpty = false := by simpa using hs
    simp only [hsome, Bool.not_false, if_true]
    refine (hheader.bind <| Prints.skip.bind <| himports.bind <| Prints.skip.bind hclass).of_eq ?_
    simp [classHead, hs, insetBy]

theorem prints_writeEnum_split (w : Workshop) (ls : List Json) (hname : facts.name.isText = true)
    (hdoc : facts.doc.isDoc = true) :
    Prints w.options.indentUnit 0 (w.writeEnum (.node facts (.enumeration ls) owned))
      (enumHead facts ++ inset w.options.indentUnit (w.docLines facts.doc) ++
        inset w.options.indentUnit (literalLines ls) ++ [""]) 0 := by
  have hdeclaration := prints_part (w.renders_enumDeclaration facts.name.display)
    w.options.indentUnit 0
  have hbody := (prints_literals w.options.indentUnit 1 ls).bind (Prints.outdent.bind Prints.skip)
  have hprints := (w.prints_enumHeader w.options.indentUnit).bind <| Prints.skip.bind <|
    hdeclaration.bind <| Prints.indent.bind <|
    (w.prints_writeDoc hdoc w.options.indentUnit).bind hbody
  rw [← Json.ofJson_of_isText hname] at hprints
  have hpage : Prints w.options.indentUnit 0 _ (enumHead facts ++
      inset w.options.indentUnit (w.docLines facts.doc) ++
        inset w.options.indentUnit (literalLines ls) ++ [""]) 0 :=
    hprints.of_eq (by simp [enumHead, enumDeclaration, insetBy])
  -- whether there are literals is asked before the end of the page is written
  cases ls <;> exact hpage

/-- What is written for one literal. -/
theorem splitLines_literal {unit : String} (hunit : IsLine unit) (p : Json × Nat) :
    ∃ first, splitLines (unit ++ (p.1.display ++ " = " ++ toString p.2) ++ "\n") =
      (unit ++ first) :: (splitLines (p.1.display ++ " = " ++ toString p.2)).tail := by
  obtain ⟨d, hlast, hd⟩ := getLast?_numbered (p.1.display ++ " = ") p.2
  exact splitLines_moved hunit hlast hd

/-- The lines of the literals are moved in if what is broken off of them is. -/
theorem isInset_literals_iff {unit : String} (hunit : IsLine unit) (ls : List Json) :
    (∀ l ∈ (inset unit (literalLines ls)).flatMap fun l => splitLines (l ++ "\n"),
      IsInset unit l) ↔ ∀ l ∈ brokenOff ls, IsInset unit l := by
  by_cases hls : ls = []
  · subst hls
    have hlines : ∀ l ∈ inset unit [placeholder], IsLine l := isLine_inset hunit (by decide)
    rw [literalLines, if_pos rfl, flatMap_splitLines_of_isLine hlines]
    exact ⟨fun _ => List.forall_mem_nil _, fun _ l hl => isInset_inset hl⟩
  · rw [literalLines, if_neg hls, brokenOff, inset, List.map_map, List.flatMap_map,
      List.forall_mem_flatMap, List.forall_mem_flatMap]
    refine forall₂_congr fun p _ => ?_
    have hne : p.1.display ++ " = " ++ toString p.2 ≠ "" := by simp
    obtain ⟨first, hlines⟩ := splitLines_literal hunit p
    rw [Function.comp_apply, if_neg hne, hlines, List.forall_mem_cons, and_iff_right]
    exact .inr (by simp)

/-- Nothing is broken off of a text without line breaks. -/
theorem brokenOff_eq_nil {ls : List Json} (h : ∀ l ∈ ls, IsLine l.display) : brokenOff ls = [] := by
  rw [brokenOff, List.flatMap_eq_nil_iff]
  intro p hp
  have hdisplay := h p.1 (List.fst_mem_of_mem_zipIdx hp)
  have hline : IsLine (p.1.display ++ " = " ++ toString p.2) := by
    simp only [isLine_append, hdisplay, isLine_toString, true_and, and_true]
    decide
  rw [splitLines_of_isLine hline (by simp), List.tail_cons]

/-- The body of a class, from behind the declaration to the line that closes it, has only lines
that are empty or moved in, whatever the texts in it are. The body of an enumeration has only
such lines just if this holds of what is broken off of its literals, and so if the literals have
no line breaks. -/
theorem body_lines_inset (w : Workshop) (supply : Supply) (facts : Facts) (owned : List Element)
    (hname : facts.name.isText = true) (hdoc : facts.doc.isDoc = true) :
    (∀ isInterface attributes operations targets,
      let e := Element.node facts (.classifier isInterface attributes operations) owned
      e.shape.isPlain = true → w.snapshot.targets e = .ok (.ok targets) →
      (∀ t ∈ targets, t.isPlain = true) →
      ∃ text body, (w.page (.ok none) supply (w.writeClass e)).1 = .ok text ∧
        splitLines text = w.classHead facts targets ++ body ++ ["\x7d"] ∧
        ∀ l ∈ body, IsInset w.options.indentUnit l) ∧
    ∀ ls, ∃ text body,
      (w.page (.ok none) supply (w.writeEnum (.node facts (.enumeration ls) owned))).1 =
        .ok text ∧
      splitLines text = enumHead facts ++ body ∧
      ((∀ l ∈ body, IsInset w.options.indentUnit l) ↔
        ∀ l ∈ brokenOff ls, IsInset w.options.indentUnit l) ∧
      ((∀ l ∈ ls, IsLine l.display) → ∀ l ∈ body, IsInset w.options.indentUnit l) := by
  have hunit := isLine_indentUnit w.options
  constructor
  · intro isInterface attributes operations targets e hshape htargets hplain
    obtain ⟨body, hbody, hprints⟩ :=
      exists_prints_writeClass (e := e) rfl hname hdoc hshape htargets hplain
    have hlines : ∀ l ∈ w.classHead facts targets ++ body ++ ["\x7d"], IsLine l := by
      simp only [List.forall_mem_append]
      exact ⟨⟨w.isLine_classHead facts targets, fun l hl => (hbody l hl).1⟩, by decide⟩
    exact ⟨_, body, page_of_prints hprints supply, splitLines_page_of_isLine hlines,
      fun l hl => (hbody l hl).2⟩
  · intro ls
    let told := inset w.options.indentUnit (w.docLines facts.doc)
    let listed := inset w.options.indentUnit (literalLines ls)
    have htold : ∀ l ∈ told, IsLine l := isLine_inset hunit (w.isLine_docLines facts.doc)
    have hiff : (∀ l ∈ told ++ listed.flatMap fun l => splitLines (l ++ "\n"),
        IsInset w.options.indentUnit l) ↔ ∀ l ∈ brokenOff ls, IsInset w.options.indentUnit l := by
      rw [← isInset_literals_iff hunit, List.forall_mem_append]
      exact and_iff_right fun l hl => isInset_inset hl
    refine ⟨_, _, page_of_prints (w.prints_writeEnum_split ls hname hdoc) supply, ?_, hiff,
      fun hlines => hiff.2 ?_⟩
    · rw [splitLines_page, List.flatMap_append, List.flatMap_append,
        flatMap_splitLines_of_isLine (isLine_enumHead facts), flatMap_splitLines_of_isLine htold,
        List.append_assoc]
    · rw [brokenOff_eq_nil hlines]
      exact List.forall_mem_nil _

def raggedFacts : Facts := ⟨.text "o", .text "or\nder", .text " First.\u2028Second.\r"⟩

def raggedAttributes : List Attribute := [⟨.text "to\rtal", .text "int\x0b", false⟩]

def raggedOperations : List Operation :=
  [⟨.text "op\x85en", .text "", false, [⟨.text "a\nt", .text "", .text "in"⟩]⟩]

def boltTarget : Target :=
  ⟨⟨[0, 0, 0], sampleClass "b" "bolt"⟩, [.text "parts", .text "bolt"]⟩

theorem body_lines_inset_ragged : ∃ text body,
    (ordering.page (.ok none) {} (ordering.writeClass (.node raggedFacts
      (.classifier false raggedAttributes raggedOperations) []))).1 = .ok text ∧
    splitLines text =
      ordering.classHead raggedFacts [boltTarget, boltTarget] ++ body ++ ["\x7d"] ∧
    ∀ l ∈ body, IsInset ordering.options.indentUnit l := by
  have hbolt (kind : EdgeKind) :
      ordering.snapshot.Resolves ⟨.text "o", .text "b", kind⟩ boltTarget := by
    constructor <;> with_unfolding_all rfl
  have htargets : ordering.snapshot.targets (.node raggedFacts
      (.classifier false raggedAttributes raggedOperations) []) =
        .ok (.ok [boltTarget, boltTarget]) :=
    Snapshot.targetsOf_of_resolves (.cons (hbolt _) (.cons (hbolt _) .nil))
  exact (body_lines_inset ordering {} raggedFacts [] (by decide) (by decide)).1 false
    raggedAttributes raggedOperations [boltTarget, boltTarget] (by decide) htargets (by decide)

/-- A literal of two lines, of which the second one stands at the margin. -/
theorem broken_literal_at_margin :
    (ordering.page (.ok none) {} (ordering.writeEnum
      (.node ⟨.text "e", .text "Size", .text ""⟩ (.enumeration [.text "A\nB"]) []))).1 =
      .ok "\nfrom enum import Enum\n\nclass Size(Enum):\n  A\nB = 1\n" ∧
    splitLines "\nfrom enum import Enum\n\nclass Size(Enum):\n  A\nB = 1\n" =
      ["", "from enum import Enum", "", "class Size(Enum):", "  A", "B = 1"] ∧
    ¬ IsInset ordering.options.indentUnit "B = 1" := by
  refine ⟨?_, by decide +kernel, by decide +kernel⟩
  let size : Element := .node ⟨.text "e", .text "Size", .text ""⟩ (.enumeration [.text "A\nB"]) []
  have hprints : Prints ordering.options.indentUnit 0 (ordering.writeEnum size) _ 0 :=
    ordering.prints_writeEnum_split _ (by decide) (by decide)
  rw [page_of_prints hprints]
  exact congrArg _ (by decide +kernel)

end Emit.Workshop
end UmlPress
