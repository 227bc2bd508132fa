import UmlPress.Proofs.ClassPage
import UmlPress.Proofs.Complete

/-!
# The page of an enumeration

What the page of an enumeration looks like, line by line, and that it does. Its name must
be a line, while the documentation may be any text and the literals anything. Literals are
numbered as they come: one that stands twice has two numbers.
-/
namespace UmlPress
namespace Layout

def enumHeader : List String := ["", "from enum import Enum"]

def enumDeclaration (rawName : String) : String := "class " ++ rawName ++ "(Enum):"

def literalLines (ls : List Json) : List String :=
  if ls = [] then [Emit.Workshop.placeholder]
  else (ls.zipIdx 1).map fun p => p.1.display ++ " = " ++ toString p.2

end Layout

namespace Emit.Workshop
open Layout Composing
variable {w : Workshop} {facts : Facts} {owned : List Element}

def enumLines (w : Workshop) (facts : Facts) (ls : List Json) : List String :=
  enumHeader ++ [""] ++ [enumDeclaration facts.name.display] ++
    inset w.options.indentUnit (w.docLines facts.doc ++ literalLines ls) ++ [""]

theorem prints_writeLiterals (unit : String) (depth number : Nat) (ls : List Json) :
    Prints unit depth (writeLiterals number ls)
      (insetBy unit depth ((ls.zipIdx number).map fun p => p.1.display ++ " = " ++ toString p.2))
      depth := by
  induction ls generalizing number with
  | nil => exact Prints.pure.of_eq (insetBy_nil depth).symm
  | cons l r ih =>
    refine ((Prints.line _).bind (ih (number + 1))).of_eq ?_
    rw [← insetBy_append]
    rfl

/-- What stands inside an enumeration besides its documentation. -/
theorem prints_literals (unit : String) (depth : Nat) (ls : List Json) :
    Prints unit depth (if ls.isEmpty then line placeholder else writeLiterals 1 ls)
      (insetBy unit depth (literalLines ls)) depth := by
  cases ls with
  | nil => exact .line placeholder
  | cons l r =>
    rw [literalLines, if_neg (List.cons_ne_nil l r)]
    exact prints_writeLiterals unit depth 1 (l :: r)

theorem prints_enumHeader (w : Workshop) (unit : String) :
    Prints unit 0 (w.part "enum_file_header.dart.j2" []) enumHeader 0 :=
  prints_part_intercalate w.renders_enumHeader (by decide) (by decide) unit 0

theorem prints_enumDeclaration (w : Workshop) (h : facts.name.isLine = true) (unit : String) :
    Prints unit 0 (w.part "enum_declaration.dart.j2" [("name", .ofJson facts.name)])
      [enumDeclaration facts.name.display] 0 := by
  have hline : IsLine (enumDeclaration facts.name.display) := by
    simp only [enumDeclaration, isLine_append, Json.isLine_display h, and_true]
    decide
  rw [ofJson_of_isLine h]
  exact prints_part_line (w.renders_enumDeclaration _) hline (by simp) unit 0

theorem prints_writeEnum (w : Workshop) (ls : List Json) (hname : facts.name.isLine = true)
    (hdoc : facts.doc.isDoc = true) :
    Prints w.options.indentUnit 0 (w.writeEnum (.node facts (.enumeration ls) owned))
      (w.enumLines facts ls) 0 := by
  have hbody := (prints_literals w.options.indentUnit 1 ls).bind (Prints.outdent.bind Prints.skip)
  have hprints := (w.prints_enumHeader w.options.indentUnit).bind <| Prints.skip.bind <|
    (w.prints_enumDeclaration hname w.options.indentUnit).bind <| Prints.indent.bind <|
    (w.prints_writeDoc hdoc w.options.indentUnit).bind hbody
  have hpage : Prints w.options.indentUnit 0 _ (w.enumLines facts ls) 0 :=
    hprints.of_eq (by simp [enumLines, insetBy, inset_append])
  -- whether there are literals is asked before the end of the page is written
  cases ls <;> exact hpage

/-- An enumeration with documentation and literals of any kind has exactly the lines of the
layout. If there is no directory of templates, they are what its file is written with. -/
theorem enum_page_layout (w : Workshop) (base : Path) (supply : Supply) (facts : Facts)
    (ls : List Json) (owned : List Element) (hdirectory : directory? w.options = none)
    (hname : facts.name.isLine = true) (hdoc : facts.doc.isDoc = true) :
    let e := Element.node facts (.enumeration ls) owned
    let text := "\n".intercalate (w.enumLines facts ls)
    (w.page (.ok none) supply (w.writeEnum e)).1 = .ok text ∧
      ∀ calls result supply', (w.emit base supply e).Yields calls (result, supply') →
        ∃ answer, calls =
            [.write (base.child (w.className facts ++ w.options.fileExtension)) text answer] ∧
          result = answer.map fun _ =>
            { generated := [base.child (w.className facts ++ w.options.fileExtension)] } := by
  intro e text
  have hpage : (w.page (.ok none) supply (w.writeEnum e)).1 = .ok text :=
    page_of_prints (w.prints_writeEnum ls hname hdoc) supply
  have hfile : w.fileName e = .ok (w.className facts ++ w.options.fileExtension) := by
    have hown : e.name = facts.name := rfl
    rw [fileName, hown, typeName_of_isLine hname]
    rfl
  refine ⟨hpage, fun calls result supply' h => ?_⟩
  have hemit : w.emit base supply e = w.emitFile base supply e (w.writeEnum e) := by rw [emit]
  rw [hemit] at h
  obtain ⟨found, hfound, -, hcases⟩ := yields_emitFile h
  rw [hfound hdirectory, hpage, hfile] at hcases
  rcases hcases with ⟨t, ht, -⟩ | ⟨m, hm, -⟩ | ⟨content, name, answer, hc, hn, rfl, rfl⟩
  · cases ht
  · cases hm
  · cases hc
    cases hn
    exact ⟨answer, rfl, rfl⟩

/-- An enumeration in which a literal stands twice and another one is a number. -/
theorem enum_page_layout_color :
    (ordering.page (.ok none) {} (ordering.writeEnum (.node
      ⟨.text "c", .text "color", .text "\n First.\u2028\r\n  Second. "⟩
      (.enumeration [.text "RED", .text "RED", .text "", .int 7]) []))).1 =
      .ok ("\n".intercalate
        ["", "from enum import Enum", "", "class color(Enum):", "  ///\"\"\"", "  First.", "",
          "    Second.", "  ///\"\"\"", "  RED = 1", "  RED = 2", "   = 3", "  7 = 4", ""]) := by
  have hlayout := (enum_page_layout ordering (.ofString "out") {}
    ⟨.text "c", .text "color", .text "\n First.\u2028\r\n  Second. "⟩
    [.text "RED", .text "RED", .text "", .int 7] [] rfl rfl rfl).1
  rw [hlayout]
  exact congrArg _ (congrArg _ (by decide +kernel))

end Emit.Workshop
end UmlPress
