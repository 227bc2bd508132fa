import UmlPress.Emit.Page
import UmlPress.Proofs.Lines

/-!
# The layout of a class page

What the page of a class looks like, line by line, without any template. A page
has the imports of the runtime, those of the inherited elements, and the class,
whose body stands one level deeper.
-/
namespace UmlPress

namespace Layout

def inset (unit : String) (ls : List String) : List String :=
  ls.map fun l => if l = "" then "" else unit ++ l

theorem inset_append (unit : String) (ls ms : List String) :
    inset unit (ls ++ ms) = inset unit ls ++ inset unit ms := List.map_append

def capitalized (s : String) : String := .ofList (Text.capitalize s.toList)

def header : List String :=
  ["import 'dart:async';", "", "import 'package:leancloud_functions/leancloud_functions.dart';"]

def importLine (path : List String) (name : String) : String :=
  "from " ++ ".".intercalate path ++ " import " ++ capitalized name

def declaration (className baseClass : String) (inherited : List String) : String :=
  "class " ++ className ++ " extends " ++ baseClass ++ " " ++
    (if inherited = [] then "" else "(" ++ ", ".intercalate inherited ++ ")") ++ "\x7b"

def constructors (unit className rawName : String) : List String :=
  [className ++ "() : super(\"" ++ rawName ++ "\");", "",
    className ++ ".fromQueryBackString(String queriedString)",
    unit ++ ": super.fromQueryBackString(queriedString);"]

def fence : String := "///\"\"\""

def fenced : List String → List String
  | [] => []
  | [l] => [fence ++ l ++ "\"\"\""]
  | ls => [fence] ++ ls ++ [fence]

def put (unit : String) : List String :=
  ["void put(String key, Object value) \x7b", unit ++ "super.put(key, value);", "\x7d"]

def setter (unit name type : String) : List String :=
  ["void set" ++ capitalized name ++ "(" ++ type ++ " " ++ name ++ ") \x7b",
    unit ++ "this.put(\"" ++ name ++ "\", " ++ name ++ ");", "\x7d"]

def getter (unit name type : String) : List String :=
  [type ++ " get" ++ capitalized name ++ "() \x7b",
    unit ++ "return super.get(\"" ++ name ++ "\");", "\x7d"]

def save (unit className : String) : List String :=
  ["Future<" ++ className ++ "> save() async \x7b", unit ++ "super.save();",
    unit ++ "return this;", "\x7d"]

def signature (isStatic : Bool) (name : String) (parameters : List String) : List String :=
  if isStatic then
    ["@classmethod", "def " ++ name ++ "(" ++ ", ".intercalate ("cls" :: parameters) ++ "):"]
  else ["def " ++ name ++ "(" ++ ", ".intercalate ("self" :: parameters) ++ "):"]

/-! Kinds of texts that all that is laid out is of, where all that is put into it is. -/

/-- All characters of a text are of those that stand for themselves in any encoding. -/
def IsAscii (s : String) : Prop := ∀ c ∈ s.toList, 0x20 ≤ c.toNat ∧ c.toNat < 0x7f

instance (s : String) : Decidable (IsAscii s) := List.decidableBAll ..

/-- Plain texts are of the kind, and so is what is made up of texts of the kind. -/
structure Composes (K : String → Prop) : Prop where
  plain {s : String} : IsAscii s → K s
  append {s t : String} : K (s ++ t) ↔ K s ∧ K t
  capitalized {s : String} : K s → K (capitalized s)

theorem composes_isLine : Composes IsLine where
  plain h c hc := by
    obtain ⟨hlow, hhigh⟩ := h c hc
    simp only [Text.isBreak, Text.within, List.any_cons, List.any_nil, Bool.or_false,
      Bool.or_eq_false_iff, Bool.and_eq_false_iff, decide_eq_false_iff_not]
    omega
  append := isLine_append
  capitalized {s} h := by
    rw [IsLine, capitalized, String.toList_ofList]
    exact Text.unbroken_capitalize h

namespace Composes
variable {K : String → Prop} (hK : Composes K) {unit className : String} {ls : List String}
include hK

theorem intercalate {separator : String} (h : K separator) (hls : ∀ l ∈ ls, K l) :
    K (separator.intercalate ls) :=
  intercalate_of_append (hK.plain (by decide)) (fun _ _ hs ht => hK.append.2 ⟨hs, ht⟩) h hls

theorem of_listed (h : ∀ s ∈ ls, K s) : K (", ".intercalate ls) :=
  hK.intercalate (hK.plain (by decide)) h

theorem of_header : ∀ l ∈ header, K l := by
  have hplain : ∀ l ∈ header, IsAscii l := by decide
  exact fun l hl => hK.plain (hplain l hl)

theorem of_importLine {path : List String} {name : String} (hpath : ∀ s ∈ path, K s)
    (hname : K name) : K (importLine path name) := by
  have hdotted : K (".".intercalate path) := hK.intercalate (hK.plain (by decide)) hpath
  simp only [importLine, hK.append, hdotted, hK.capitalized hname, and_true]
  exact ⟨hK.plain (by decide), hK.plain (by decide)⟩

theorem of_declaration {baseClass : String} {inherited : List String} (hname : K className)
    (hbase : K baseClass) (h : ∀ s ∈ inherited, K s) :
    K (declaration className baseClass inherited) := by
  have hinherited : K (if inherited = [] then "" else
      "(" ++ ", ".intercalate inherited ++ ")") := by
    split
    · exact hK.plain (by decide)
    · exact hK.append.2 ⟨hK.append.2 ⟨hK.plain (by decide), hK.of_listed h⟩,
        hK.plain (by decide)⟩
  simp only [declaration, hK.append, hname, hbase, hinherited, and_true]
  refine ⟨⟨⟨?_, ?_⟩, ?_⟩, ?_⟩
  all_goals exact hK.plain (by decide)

theorem of_constructors {rawName : String} (hunit : K unit) (hname : K className)
    (hraw : K rawName) : ∀ l ∈ constructors unit className rawName, K l := by
  simp only [constructors, List.forall_mem_cons, hK.append, hunit, hname, hraw, true_and,
    and_true]
  refine ⟨⟨hK.plain (by decide), hK.plain (by decide)⟩, ?_⟩
  exact ⟨hK.plain (by decide), hK.plain (by decide), hK.plain (by decide), nofun⟩

theorem of_fenced (h : ∀ l ∈ ls, K l) : ∀ l ∈ fenced ls, K l := by
  have hfence : K fence := hK.plain (by decide)
  rcases ls with _ | ⟨l, _ | ⟨m, r⟩⟩
  · exact h
  · have hl : K l := h l List.mem_cons_self
    have hclose : K "\"\"\"" := hK.plain (by decide)
    exact List.forall_mem_singleton.2 (hK.append.2 ⟨hK.append.2 ⟨hfence, hl⟩, hclose⟩)
  · have hends : ∀ l ∈ [fence], K l := List.forall_mem_singleton.2 hfence
    exact List.forall_mem_append.2 ⟨List.forall_mem_append.2 ⟨hends, h⟩, hends⟩

theorem of_put (hunit : K unit) : ∀ l ∈ put unit, K l := by
  simp only [put, List.forall_mem_cons, hK.append, hunit, true_and]
  exact ⟨hK.plain (by decide), hK.plain (by decide), hK.plain (by decide), nofun⟩

theorem of_setter {name type : String} (hunit : K unit) (hname : K name) (htype : K type) :
    ∀ l ∈ setter unit name type, K l := by
  simp only [setter, List.forall_mem_cons, hK.append, hunit, hname, htype,
    hK.capitalized hname, true_and, and_true]
  refine ⟨⟨⟨⟨?_, ?_⟩, ?_⟩, ?_⟩, ⟨⟨?_, ?_⟩, ?_⟩, ?_, nofun⟩
  all_goals exact hK.plain (by decide)

theorem of_getter {name type : String} (hunit : K unit) (hname : K name) (htype : K type) :
    ∀ l ∈ getter unit name type, K l := by
  simp only [getter, List.forall_mem_cons, hK.append, hunit, hname, htype,
    hK.capitalized hname, true_and, and_true]
  refine ⟨⟨?_, ?_⟩, ⟨?_, ?_⟩, ?_, nofun⟩
  all_goals exact hK.plain (by decide)

theorem of_save (hunit : K unit) (hname : K className) : ∀ l ∈ save unit className, K l := by
  simp only [save, List.forall_mem_cons, hK.append, hunit, hname, true_and, and_true]
  refine ⟨⟨?_, ?_⟩, ?_, ?_, ?_, nofun⟩
  all_goals exact hK.plain (by decide)

theorem of_signature {isStatic : Bool} {name : String} {parameters : List String}
    (hname : K name) (h : ∀ s ∈ parameters, K s) :
    ∀ l ∈ signature isStatic name parameters, K l := by
  have hlisted (owner : String) (howner : K owner) :
      K ("def " ++ name ++ "(" ++ ", ".intercalate (owner :: parameters) ++ "):") := by
    have hall := hK.of_listed (List.forall_mem_cons.2 ⟨howner, h⟩)
    simp only [hK.append, hname, hall, and_true]
    exact ⟨⟨hK.plain (by decide), hK.plain (by decide)⟩, hK.plain (by decide)⟩
  cases isStatic with
  | true =>
    exact List.forall_mem_cons.2 ⟨hK.plain (by decide),
      List.forall_mem_singleton.2 (hlisted "cls" (hK.plain (by decide)))⟩
  | false => exact List.forall_mem_singleton.2 (hlisted "self" (hK.plain (by decide)))

end Composes

end Layout

namespace Emit.Workshop
open Layout

def docOf : Json → String
  | .text s => trimText s
  | _ => ""

def docLines (w : Workshop) (doc : Json) : List String :=
  if w.options.docString then fenced (splitLines (docOf doc)) else []

def stubLines (w : Workshop) (o : Operation) : List String :=
  signature o.isStatic o.name.display (o.inputs.map (·.name.display)) ++
    inset w.options.indentUnit (w.docLines o.doc ++ [placeholder]) ++ [""]

def methodLines (w : Workshop) (operations : List Operation) : List String :=
  (operations.filter (·.name.truthy)).flatMap w.stubLines

def accessorLines (accessor : String → String → List String) (attributes : List Attribute) :
    List String :=
  (attributes.filter (!·.isStatic)).flatMap fun a => accessor a.name.display a.type.display

def memberLines (w : Workshop) (className : String) (attributes : List Attribute)
    (operations : List Operation) : List String :=
  let unit := w.options.indentUnit
  if attributes = [] ∧ operations = [] then [placeholder]
  else
    put unit ++ [""] ++ accessorLines (setter unit) attributes ++ [""] ++
      accessorLines (getter unit) attributes ++ ["", ""] ++ save unit className ++ [""] ++
      w.methodLines operations

def importLines (targets : List Target) : List String :=
  if targets = [] then []
  else targets.map (fun t => importLine (t.path.map Json.display) t.spot.element.name.display) ++
    [""]

def className (w : Workshop) (facts : Facts) : String :=
  w.options.namePrefix ++ capitalized facts.name.display

def classLines (w : Workshop) (facts : Facts) (attributes : List Attribute)
    (operations : List Operation) (targets : List Target) : List String :=
  let unit := w.options.indentUnit
  let name := w.className facts
  header ++ [""] ++ importLines targets ++
    [declaration name w.options.baseClass (targets.map (·.spot.element.name.display)), ""] ++
    inset unit (constructors unit name facts.name.display ++ w.docLines facts.doc ++
      w.memberLines name attributes operations) ++
    ["", "\x7d", ""]

end Emit.Workshop
end UmlPress
