import UmlPress.Emit.Supply
import UmlPress.Journal
import UmlPress.Misuse
import UmlPress.Model.Snapshot
import UmlPress.Sheet
import UmlPress.Text.Case

/-!
# Pages

A page is the content of one generated file. It is written part by part, most
parts from a template, onto a sheet; what stands on the sheet stays there when
a part fails. One rule is for the names of types, files and accessors: the first
character is put in upper case and the rest is kept. Types and their files also
carry the configured prefix.
-/
namespace UmlPress.Naming

/-- A name with its first character in upper case. A value that counts as
nothing is kept as it is. -/
def formatName (raw : Json) : Except Misuse Json :=
  if !raw.truthy then .ok raw
  else match raw with
    | .text s => .ok (.text (.ofList (Text.capitalize s.toList)))
    | .list (.text _ :: _) => .error (.notAppendable "str" "list")
    | .list (v :: _) => .error (.noMember v.typeName "upper")
    | .object _ => .error (.missingKey "0")
    | v => .error (.notSubscriptable v.typeName)

def typeName (lead : String) (raw : Json) : Except Misuse String :=
  (formatName raw).map (lead ++ ·.display)

def accessorFragment (raw : Json) : Except Misuse Json := formatName raw

theorem formatName_text (s : String) :
    formatName (.text s) = .ok (.text (.ofList (Text.capitalize s.toList))) := by
  by_cases h : s = ""
  · subst h; rfl
  · simp [formatName, Json.truthy, h]

end UmlPress.Naming

namespace UmlPress.Emit

open Template (Value)

/-- What the pages of one run have in common. -/
structure Workshop where
  snapshot : Snapshot
  options : Options

/-- The place of a page in the making. -/
structure Bench where
  sheet : Sheet
  notes : List Note := []
  supply : Supply := {}
  /-- What is found at the directory of templates by now. -/
  found : Found := .ok none

abbrev Composing := ExceptT Trouble (StateM Bench)

namespace Composing

def onSheet (f : Sheet → Sheet) : Composing Unit := modify fun b => { b with sheet := f b.sheet }

def indent : Composing Unit := onSheet .indent
def outdent : Composing Unit := onSheet .outdent
def line (s : String) : Composing Unit := onSheet (·.write s)
def skip : Composing Unit := onSheet .skip

def note (n : Note) : Composing Unit := modify fun b => { b with notes := b.notes ++ [n] }

def ofMisuse {α : Type} (r : Except Misuse α) : Composing α :=
  match r with
  | .ok a => pure a
  | .error m => throw (.misuse m)

end Composing

open Composing

namespace Workshop

/-- The variables that every template can read. -/
def common (w : Workshop) : Keyed String Value :=
  [("indent", .plain w.options.indentUnit), ("config", .options w.options),
   ("custom", .ofCustom w.options.custom)]

/-- The directory of templates, unless none or an empty one is named. -/
def directory? (o : Options) : Option Path :=
  match o.templateDir with
  | none => none
  | some "" => none
  | some name => some (.ofString name)

/-- The shelf that a template is taken from. -/
def shelf (w : Workshop) (template : String) : Composing Template.Shelf := do
  let bench ← get
  match bench.supply.shelf bench.found template with
  | .error r => throw (.refused (w.options.templateDir.getD "") r)
  | .ok (shelf, supply) =>
    set { bench with supply }
    return shelf

/-- Writes the lines of a template at the current depth. -/
def part (w : Workshop) (template : String) (vars : Keyed String Value) :
    Composing Unit := do
  let shelf ← w.shelf template
  match shelf.render template (w.common.update vars) with
  | .ok text => onSheet (·.writeText text)
  | .error u => throw (.ofUnrendered u)

def typeName (w : Workshop) (raw : Json) : Except Misuse String :=
  Naming.typeName w.options.namePrefix raw

/-- The text of a documentation, without the white space around it. -/
def docText (doc : Json) : Except Misuse String :=
  if !doc.truthy then .ok ""
  else match doc with
    | .text s => .ok (trimText s)
    | v => .error (.noMember v.typeName "strip")

def writeDoc (w : Workshop) (doc : Json) : Composing Unit := do
  if w.options.docString then
    let text ← ofMisuse (docText doc)
    if text ≠ "" then
      w.part "doc.dart.j2" [("lines", .list ((splitLines text).map .plain))]

/-- What is written where nothing else stands. -/
def placeholder : String := "pass"

/-- The variables of an accessor. -/
def accessor (a : Attribute) : Except Misuse (Keyed String Value) := do
  let fragment ← Naming.accessorFragment a.name
  return [("name", .ofJson a.name), ("type", .ofJson a.type), ("fragment", .ofJson fragment)]

/-- One part for each attribute that belongs to an object. -/
def writeAccessors (w : Workshop) (template : String) : List Attribute → Composing Unit
  | [] => skip
  | a :: r => do
    if !a.isStatic then
      w.part template (← ofMisuse (accessor a))
    w.writeAccessors template r

/-- The attributes and operations of an element that should have them. -/
def members (e : Element) : Composing (List Attribute × List Operation) :=
  match e.members? with
  | some ms => pure ms
  | none => throw (.misuse (.noMember "element" "attributes"))

/-- The literals of an element that should have them. -/
def literals (e : Element) : Composing (List Json) :=
  match e.literals? with
  | some ls => pure ls
  | none => throw (.misuse (.noMember "element" "literals"))

def writeSetters (w : Workshop) (e : Element) : Composing Unit := do
  w.writeAccessors "setter.dart.j2" (← members e).1

def writeGetters (w : Workshop) (e : Element) : Composing Unit := do
  w.writeAccessors "getter.dart.j2" (← members e).1

/-- A stub for an operation. One without a name is left out. -/
def writeMethod (w : Workshop) (o : Operation) : Composing Unit := do
  if !o.name.truthy then
    note (.debug "umlgen.codegen.languages.dart.generator" "Skipping unnamed operation")
  else
    w.part "method.dart.j2" [("name", .ofJson o.name),
      ("params", .list (o.inputs.map fun p => .ofJson p.name)), ("is_static", .bool o.isStatic)]
    indent
    w.writeDoc o.doc
    line placeholder
    outdent
    skip

def writeMethods (w : Workshop) : List Operation → Composing Unit
  | [] => pure ()
  | o :: r => do
    w.writeMethod o
    w.writeMethods r

def writeImports (w : Workshop) : List Target → Composing Unit
  | [] => pure ()
  | t :: r => do
    w.part "import.dart.j2" [("path", .list (t.path.map .ofJson)),
      ("name", .ofJson t.spot.element.name)]
    w.writeImports r

/-- The inherited elements; one that is missing is a fault. -/
def targets (w : Workshop) (e : Element) : Composing (List Target) := do
  match ← ofMisuse (w.snapshot.targets e) with
  | .ok ts => return ts
  | .error f => throw (.fault f)

/-- What stands inside a class. -/
def writeMembers (w : Workshop) (className : String) (e : Element) : Composing Unit := do
  let (attributes, operations) ← members e
  if attributes.isEmpty && operations.isEmpty then line placeholder
  else
    w.part "put.dart.j2" []
    skip
    w.writeSetters e
    w.writeGetters e
    skip
    w.part "save.dart.j2" [("class_name", .plain className)]
    skip
    w.writeMethods operations

/-- The page of a class or an interface. -/
def writeClass (w : Workshop) (e : Element) : Composing Unit := do
  let targets ← w.targets e
  let className ← ofMisuse (w.typeName e.name)
  w.part "class_file_header.dart.j2" []
  skip
  if !targets.isEmpty then
    w.writeImports targets
    skip
  w.part "class_declaration.dart.j2" [("class_name", .plain className),
    ("base_class", .plain w.options.baseClass),
    ("inherits", .list (targets.map fun t => .ofJson t.spot.element.name))]
  skip
  indent
  w.part "constructors.dart.j2" [("class_name", .plain className), ("raw_name", .ofJson e.name)]
  w.writeDoc e.facts.doc
  w.writeMembers className e
  outdent
  skip
  line "\x7d"
  skip

/-- Literals with their numbers. -/
def writeLiterals (number : Nat) : List Json → Composing Unit
  | [] => pure ()
  | l :: r => do
    line s!"{l.display} = {number}"
    writeLiterals (number + 1) r

/-- The page of an enumeration, whose literals are numbered from one. -/
def writeEnum (w : Workshop) (e : Element) : Composing Unit := do
  w.part "enum_file_header.dart.j2" []
  skip
  w.part "enum_declaration.dart.j2" [("name", .ofJson e.name)]
  indent
  w.writeDoc e.facts.doc
  let ls ← literals e
  if ls.isEmpty then line placeholder
  else writeLiterals 1 ls
  outdent
  skip

/-- A page as a whole, what was noted while it was written, and the supply after
it. -/
def page (w : Workshop) (found : Found) (supply : Supply) (compose : Composing Unit) :
    Except Trouble String × List Note × Supply :=
  let (r, bench) := compose.run.run ⟨{ unit := w.options.indentUnit }, [], supply, found⟩
  (r.map fun _ => bench.sheet.text, bench.notes, bench.supply)

def fileName (w : Workshop) (e : Element) : Except Misuse String :=
  (w.typeName e.name).map (· ++ w.options.fileExtension)

end Workshop
end UmlPress.Emit
