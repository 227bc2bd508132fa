import UmlPress.Path
import UmlPress.Store.Disk
import UmlPress.Template.Fold
import UmlPress.Template.Parse
import UmlPress.Template.Render

/-!
# Shelves of templates

Templates are looked up by name: first among those that were added, then in one
folder after the other. A name with slashes leads down into a folder, and never
out of it.
-/
namespace UmlPress.Template

/-- What is kept of a template: a tree, or a text that is still to be read. -/
inductive Source where
  | tree (t : Tree)
  | text (cs : List Char)
  | undecodable (fault : Text.Utf8.Fault)

/-- The tree of a text that stands under a name. -/
def Tree.ofChars (name : String) (cs : List Char) : Except Unusable Tree := do
  let tree ← (Parse.tree (Scan.scan (.ofList cs))).mapError .malformed
  Tree.settled name tree

def Source.tree? (name : String) : Source → Except Unusable Tree
  | .tree t => .ok t
  | .text cs => Tree.ofChars name cs
  | .undecodable fault => .error (.undecodable fault)

/-- Templates by the names on the way to them. -/
abbrev Folder := Keyed (List String) Source

/-- What a file holds as a template. -/
def Source.ofContent (c : Content) : Source :=
  match c.read with
  | .ok cs => .text cs
  | .error fault => .undecodable fault

def Folder.ofItems (items : List (List String × Item)) : Folder :=
  items.filterMap fun e => match e.2 with
    | .directory => none
    | .file c => some (e.1, .ofContent c)

/-- The templates below a directory, if it is one. -/
def Folder.ofDisk (disk : Disk) (p : Path) : Except Disk.Refusal (Option Folder) := do
  if ← disk.isDirectory p then
    return some (.ofItems (disk.listing (← disk.resolve p)))
  else return none

/-- The names on the way to a template. A name that would lead upwards leads
nowhere. -/
def way? (name : String) : Option (List String) :=
  let pieces := (Path.components name.toList).map String.ofList
  if pieces.contains ".." then none else some (pieces.filter fun p => p ≠ "" ∧ p ≠ ".")

def Folder.find? (name : String) (f : Folder) : Option Source :=
  (way? name).bind fun way => Keyed.get? way f

structure Shelf where
  added : Keyed String String := []
  folders : List Folder := []

namespace Shelf

/-- A template that is added takes the place of one of the same name. -/
def add (s : Shelf) (name source : String) : Shelf :=
  { s with added := Keyed.put name source s.added }

def source? (s : Shelf) (name : String) : Option Source :=
  match Keyed.get? name s.added with
  | some text => some (.text text.toList)
  | none => s.folders.findSome? (Folder.find? name)

def find? (s : Shelf) (name : String) : Option (Except Unusable Tree) :=
  (s.source? name).map (Source.tree? name)

/-- All names, in order. -/
def names (s : Shelf) : List String :=
  let all := Keyed.keys s.added ++
    s.folders.flatMap fun f => (Keyed.keys f).map ("/".intercalate ·)
  all.eraseDups.mergeSort (fun a b => !decide (b < a))

/-- The template that is included under a value: that of a name, or the first
one that is there of a list of names. -/
def included (s : Shelf) (v : Value) : Outcome (String × Tree) :=
  let found (name : String) : Option (Outcome (String × Tree)) :=
    (s.find? name).map fun r => (r.map fun t => (name, t)).mapError .unusable
  match v with
  | .text name _ => (found name).getD (.error (.missing name))
  | .absent _ why => .error (.absent why)
  | v => do
    if !(← v.truth) then throw .noNames
    let names ← v.iterate
    let name? (w : Value) : Option String := match w with
      | .text name _ => some name
      | _ => none
    match (names.filterMap name?).findSome? found with
    | some r => r
    | none => throw (.noneOf (← names.mapM Value.display))

/-- Whether a fault is only that no template was found. -/
def isMissing : Fault → Bool
  | .missing _ => true
  | .noneOf _ => true
  | .noNames => true
  | _ => false

/-- Applies a tree under a name, with inclusions up to a depth. -/
def renderWithin (s : Shelf) : Nat → String → Tree → Scope → Outcome String
  | 0, _, _, _ => .error .tooDeep
  | n + 1, name, tree, scope =>
    let inclusion : Inclusion := fun v ignoreMissing around =>
      match s.included v with
      | .ok (inner, t) => s.renderWithin n inner t around.nested
      | .error f => if ignoreMissing && isMissing f then .ok "" else .error f
    (renderAll inclusion (.ofName name) tree scope).map (·.1)

/-- How deep inclusions may go. -/
def depthLimit : Nat := 250

def apply (s : Shelf) (name : String) (tree : Tree) (vars : Keyed String Value) :
    Outcome String :=
  s.renderWithin depthLimit name tree [vars]

end Shelf

/-- Why a template was not rendered. Only a template that cannot be used at all
is no fault of what is rendered. -/
inductive Unrendered where
  | missing (name : String)
  | broken (name : String) (fault : Fault)
  | unusable (why : Unusable)

def Shelf.render (s : Shelf) (name : String) (vars : Keyed String Value) :
    Except Unrendered String :=
  match s.find? name with
  | none => .error (.missing name)
  | some (.error why) => .error (.unusable why)
  | some (.ok tree) =>
    if (Keyed.keys vars).contains "self" then
      .error (.broken name (.arguments "Template.render() got multiple values for argument 'self'"))
    else (s.apply name tree vars).mapError (.broken name)

end UmlPress.Template
