import UmlPress.Emit.Page
import UmlPress.Emit.Report

/-!
# Emitting a model

A package becomes a directory with a marker file in it, a class, an interface
or an enumeration becomes a file. An element that fails is reported and its
siblings are still emitted, unless the trouble is no fault of the element.
-/
namespace UmlPress.Emit

def writer : String := "umlgen.codegen.core.generator"

/-- The directory of a package below another one. -/
def packagePath (base : Path) (name : Json) : Except Trouble Path :=
  match name with
  | .text s => .ok (base.child s)
  | v => .error (.misuse (.notPath v.typeName))

namespace Workshop

def marker (w : Workshop) (directory : Path) : Path := directory.child w.options.initFileName

/-- Looks at the directory of templates, if there is one to look at. -/
def looking {α : Type} (w : Workshop) (next : Found → Plan α) : Plan α :=
  match directory? w.options with
  | none => next (.ok none)
  | some p => .look p next

/-- What comes of emitting something, and the supply of templates after it. -/
abbrev Emission := Plan (Except Trouble Report × Supply)

/-- Writes the page of an element into a directory. -/
def emitFile (w : Workshop) (base : Path) (supply : Supply) (e : Element)
    (compose : Composing Unit) : Emission :=
  w.looking fun found =>
    let (content, notes, supply) := w.page found supply compose
    .noteAll notes <|
      match content, w.fileName e with
      | .error t, _ => .done (.error t, supply)
      | .ok _, .error m => .done (.error (.misuse m), supply)
      | .ok text, .ok name =>
        let path := base.child name
        .write path text fun answer =>
          .done (answer.map fun _ => { generated := [path] }, supply)

def failureNote (place : String) (f : Fault) : Note :=
  .error writer s!"Failed to generate {place}: {f.message}"

mutual

/-- Emits an element, and everything it owns, into a directory. -/
def emit (w : Workshop) (base : Path) (supply : Supply) : Element → Emission
  | .node facts .package owned =>
    match packagePath base facts.name with
    | .error t => .done (.error t, supply)
    | .ok full =>
      .makeDirectory full fun
      | .error t => .done (.error t, supply)
      | .ok _ => .write (w.marker full) "" fun
        | .error t => .done (.error t, supply)
        | .ok _ =>
          w.emitOwned full supply { generated := [w.marker full], directories := [full] } owned
  | .node facts (.classifier isInterface attributes operations) owned =>
    let e := Element.node facts (.classifier isInterface attributes operations) owned
    w.emitFile base supply e (w.writeClass e)
  | .node facts (.enumeration literals) owned =>
    let e := Element.node facts (.enumeration literals) owned
    w.emitFile base supply e (w.writeEnum e)
  | .node facts (.other _) _ =>
    .note (.debug writer s!"Nothing to generate for {facts.name.display}") (.done (.ok {}, supply))
  | .node _ .unsupported _ => .done (.error (.fault .unsupportedKind), supply)

/-- Emits the elements of a package one after the other, on top of a report. -/
def emitOwned (w : Workshop) (full : Path) (supply : Supply) (report : Report) :
    List Element → Emission
  | [] => .done (.ok report, supply)
  | e :: r =>
    (w.emit full supply e).bind fun
    | (.ok more, supply) => w.emitOwned full supply (report ++ more) r
    | (.error (.fault f), supply) =>
      match w.snapshot.displayPath e with
      | .error m => .done (.error (.misuse m), supply)
      | .ok place =>
        .note (failureNote place f) (w.emitOwned full supply (report.fail place f) r)
    | (.error t, supply) => .done (.error t, supply)

end

def closingNote (r : Report) : Note :=
  .info writer (s!"Generated {r.generated.length} dart file(s) in {r.directories.length} " ++
    s!"director(ies), {r.failures.length} failure(s)")

/-- Emits the base of the snapshot. A fault of the base itself is reported like
any other. -/
def run (w : Workshop) (out : Path) : Plan (Except Trouble Report) :=
  let start := w.snapshot.base.element
  (w.emit out {} start).bind fun
  | (.ok report, _) => .note (closingNote report) (.done (.ok report))
  | (.error (.fault f), _) =>
    match w.snapshot.displayPath start with
    | .error m => .done (.error (.misuse m))
    | .ok place =>
      let report := ({} : Report).fail place f
      .note (failureNote place f) (.note (closingNote report) (.done (.ok report)))
  | (.error t, _) => .done (.error t)

/-- A workshop, unless its options ask for a text to indent by that there cannot
be. -/
def make (snapshot : Snapshot) (options : Options) : Except Misuse Workshop := do
  options.checkIndent
  return ⟨snapshot, options⟩

end Workshop

/-- Generates the code of a model into a directory. -/
def generate (snapshot : Snapshot) (options : Options) (out : Path) :
    Plan (Except Trouble Report) :=
  match Workshop.make snapshot options with
  | .error m => .done (.error (.misuse m))
  | .ok w => w.run out

/-- Nothing is emitted where there cannot be a text to indent by. -/
theorem generate_eq (snapshot : Snapshot) (options : Options) (out : Path) :
    generate snapshot options out = match options.checkIndent with
      | .error m => .done (.error (.misuse m))
      | .ok _ => Workshop.run ⟨snapshot, options⟩ out := by
  unfold generate Workshop.make
  cases options.checkIndent with
  | error m => rfl
  | ok _ => rfl

end UmlPress.Emit
