import UmlPress.Json.Writer
import UmlPress.Options.Layers
import UmlPress.Text.Case

/-!
# Files of options

What is found at a path becomes entries, or the first reason why it does not.
-/
namespace UmlPress.Options

def ofText (path : Path) (cs : List Char) : Except LoadFault Entries :=
  match Json.parse cs with
  | .error f => .error (if f.isForm then .badForm path f else .longInteger f)
  | .ok (.object es) => .ok es
  | .ok _ => .error (.notObject path)

def isJsonName (path : Path) : Bool := Text.lower path.suffix = ".json".toList

/-- The entries of the file at a path, given what was found there. -/
def ofFound (path : Path) (found : Except Disk.Refusal Item) : Except LoadFault Entries :=
  match found with
  | .error r => .error (if r.isAbsent then .notFound path else .unaskable path r)
  | .ok item =>
    if !isJsonName path then .error (.notJson path)
    else match item with
      | .directory => .error (.unreadable path .isDirectory)
      | .file content =>
        match content.read with
        | .error f => .error (.undecodable f)
        | .ok cs => ofText path cs

/-- A file is only looked for if its path is given. -/
def load (disk : Disk) (overrides : Entries) (file : Option String) : Except LoadFault Options := do
  let entries ← match file with
    | none => pure []
    | some "" => pure []
    | some name =>
      let path := Path.ofString name
      ofFound path (disk.status path)
  settle entries overrides

/-- What is written of some parts, and what puts an end to writing before all of them are. -/
def writtenParts : List Json.Part → List Char × Option LoadFault
  | [] => ([], none)
  | none :: _ => ([], some .longNumber)
  | some part :: r =>
    match Text.unencodable? part with
    | some why => ([], some (.unencodable why))
    | none =>
      let (rest, fault?) := writtenParts r
      (part ++ rest, fault?)

/-- The file is emptied before anything is written. It keeps the parts before one that
cannot be written. -/
def save (disk : Disk) (d : Draft) (name : String) : Disk × Except LoadFault String :=
  let path := Path.ofString name
  match disk.fill path "" with
  | .error .nullCharacter => (disk, .error (.unaskable path .nullCharacter))
  | .error (.unencodable why) => (disk, .error (.unencodable why))
  | .error r => (disk, .error (.unwritable path r))
  | .ok opened =>
    match d.flat with
    | .error f => (opened, .error f)
    | .ok entries =>
      let (cs, fault?) := writtenParts entries.parts
      let text := String.ofList cs
      match disk.fill path text, fault? with
      | .ok written, none => (written, .ok text)
      | .ok written, some f => (written, .error f)
      | .error r, _ => (opened, .error (.unwritable path r))

/-- The warnings about a draft, given what was found at its directory of
templates. -/
def Draft.warnings (d : Draft) (found : Path → Except Disk.Refusal Item) :
    Except LoadFault (List String) := do
  let extension ← match d.fileExtension with
    | .text s =>
      pure (if s.startsWith "." then []
        else [s!"file_extension '{s}' does not start with a dot"])
    | v => .error (.misuse (.noMember v.typeName "startswith"))
  let width :=
    if d.useTabs.truthy && !d.indentSpaces.equals (.int 4) then
      ["indent_spaces is ignored when use_tabs is set"]
    else []
  let templates ←
    if !d.templateDir.truthy then pure []
    else match d.templateDir with
      | .text s =>
        let missing := s!"Template directory not found: {s}"
        match found (Path.ofString s) with
        | .ok .directory => pure []
        | .ok (.file _) => pure [missing]
        | .error r =>
          if r.isAbsent then pure [missing] else .error (.unaskable (Path.ofString s) r)
      | v => .error (.misuse (.notPath v.typeName))
  let lead ←
    if !d.namePrefix.truthy then pure []
    else match d.namePrefix with
      | .text s =>
        pure (if Text.isIdentifier s.toList then []
          else [s!"name_prefix is not a valid identifier: {s}"])
      | v => .error (.misuse (.noMember v.typeName "isidentifier"))
  return extension ++ width ++ templates ++ lead

end UmlPress.Options
