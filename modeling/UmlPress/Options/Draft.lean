import UmlPress.Misuse
import UmlPress.Options.Basic
import UmlPress.Text.Identifier

/-!
# Drafts of options

A draft holds a value of any type for every option. Checking a draft asks for
the types in a fixed order and reports the first value that has the wrong one.
The options as entries, the indentation and the warnings are also those of a
draft, since single values may be set without a check.
-/
namespace UmlPress.Options

inductive Fault where
  | notBoolean (name : String) (value : Json)
  | notWidth (value : Json)
  | notText (name : String) (value : Json)
  | customNotObject

def Fault.message : Fault → String
  | .notBoolean name value => s!"{name} must be a boolean, got {value.quoted}"
  | .notWidth value => s!"indent_spaces must be a non-negative integer, got {value.quoted}"
  | .notText name value => s!"{name} must be a string, got {value.quoted}"
  | .customNotObject => "custom must be a JSON object"

/-- Whether the value in a fault can be put into a message. -/
def Fault.isTold : Fault → Bool
  | .notBoolean _ value => value.all Json.isShort
  | .notWidth value => value.all Json.isShort
  | .notText _ value => value.all Json.isShort
  | .customNotObject => true

/-- What stands in the place of the custom entries. -/
inductive CustomField where
  | entries (c : Custom)
  | other (v : Json)

namespace CustomField

def ofJson : Json → CustomField
  | .object es => .entries (.ofEntries es)
  | v => .other v

/-- Whether the field counts as true. -/
def truthy : CustomField → Bool
  | .entries c => !c.isEmpty
  | .other v => v.truthy

def quoted : CustomField → String
  | .entries c => c.quoted
  | .other v => v.quoted

end CustomField

structure Draft where
  useTabs : Json := .bool false
  indentSpaces : Json := .int 4
  namePrefix : Json := .text ""
  docString : Json := .bool true
  baseClass : Json := .text "AVObject"
  fileExtension : Json := .text ".dart"
  initFileName : Json := .text "__init__.dart"
  templateDir : Json := .null
  custom : CustomField := .entries []

namespace Draft

def boolean (name : String) : Json → Except Fault Bool
  | .bool b => .ok b
  | v => .error (.notBoolean name v)

def width : Json → Except Fault Nat
  | .int (.ofNat n) => .ok n
  | v => .error (.notWidth v)

def text (name : String) : Json → Except Fault String
  | .text s => .ok s
  | v => .error (.notText name v)

def textOrNull (name : String) : Json → Except Fault (Option String)
  | .null => .ok none
  | v => (text name v).map some

def entries : CustomField → Except Fault Custom
  | .entries c => .ok c
  | .other _ => .error .customNotObject

def check (d : Draft) : Except Fault Options := do
  let useTabs ← boolean "use_tabs" d.useTabs
  let docString ← boolean "doc_string" d.docString
  let indentSpaces ← width d.indentSpaces
  let namePrefix ← text "name_prefix" d.namePrefix
  let baseClass ← text "base_class" d.baseClass
  let fileExtension ← text "file_extension" d.fileExtension
  let initFileName ← text "init_file_name" d.initFileName
  let templateDir ← textOrNull "template_dir" d.templateDir
  let custom ← entries d.custom
  return { useTabs, indentSpaces, namePrefix, docString, baseClass, fileExtension,
           initFileName, templateDir, custom }

/-- Why a draft has no text to indent by. -/
inductive IndentFault where
  | option (f : Fault)
  | misuse (m : Misuse)

/-- Tabs need no width, so the width is then not looked at. -/
def indentUnit (d : Draft) : Except IndentFault String :=
  if d.useTabs.truthy then .ok "\t"
  else do
    let n ← (width d.indentSpaces).mapError .option
    (checkRoom n).mapError .misuse
    return .ofList (List.replicate n ' ')

def ofOptions (o : Options) : Draft where
  useTabs := .bool o.useTabs
  indentSpaces := .int o.indentSpaces
  namePrefix := .text o.namePrefix
  docString := .bool o.docString
  baseClass := .text o.baseClass
  fileExtension := .text o.fileExtension
  initFileName := .text o.initFileName
  templateDir := (o.templateDir.map Json.text).getD .null
  custom := .entries o.custom

/-- The eight options proper, in their order. -/
def optionEntries (d : Draft) : Entries :=
  [("use_tabs", d.useTabs), ("indent_spaces", d.indentSpaces), ("name_prefix", d.namePrefix),
   ("doc_string", d.docString), ("base_class", d.baseClass),
   ("file_extension", d.fileExtension), ("init_file_name", d.initFileName),
   ("template_dir", d.templateDir)]

def optionNames : List String := Keyed.keys (optionEntries {})

/-- Sets the value of an option. A name that is no option has no effect. -/
def set (d : Draft) (name : String) (value : Json) : Draft :=
  match name with
  | "use_tabs" => { d with useTabs := value }
  | "indent_spaces" => { d with indentSpaces := value }
  | "name_prefix" => { d with namePrefix := value }
  | "doc_string" => { d with docString := value }
  | "base_class" => { d with baseClass := value }
  | "file_extension" => { d with fileExtension := value }
  | "init_file_name" => { d with initFileName := value }
  | "template_dir" => { d with templateDir := value }
  | "custom" => { d with custom := .ofJson value }
  | _ => d

def isOption (name : String) : Bool := name ∈ optionNames || name = "custom"

/-- A draft of the given values, for names that are options. -/
def ofEntries (es : Entries) : Except Misuse Draft :=
  match es.find? (fun e => !isOption e.1) with
  | some e => .error (.unknownOption e.1)
  | none => .ok (es.foldl (fun d e => d.set e.1 e.2) {})

end Draft
end UmlPress.Options
