import UmlPress.Json.Reader
import UmlPress.Options.Draft
import UmlPress.Store.Disk

/-!
# Layers of settings

Settings come in three layers: the defaults, the entries of a file and the
overrides. Each later layer wins. An option may be named by an alias, and an
entry whose name is no option goes to the custom entries.
-/
namespace UmlPress.Options

inductive LoadFault where
  | notFound (path : Path)
  | notJson (path : Path)
  | unreadable (path : Path) (refusal : Disk.Refusal)
  | badForm (path : Path) (fault : Json.Fault)
  | notObject (path : Path)
  | undecodable (fault : Text.Utf8.Fault)
  | longInteger (fault : Json.Fault)
  /-- A path that the file system cannot be asked about. -/
  | unaskable (path : Path) (refusal : Disk.Refusal)
  | unwritable (path : Path) (refusal : Disk.Refusal)
  /-- A text that no file can hold. -/
  | unencodable (why : Text.Unencodable)
  /-- A number of too many digits to be put into a file or a message. -/
  | longNumber
  | option (fault : Fault)
  /-- An item that should be a pair of a key and a value. -/
  | pairLength (position length : Nat)
  | misuse (m : Misuse)

def LoadFault.message : LoadFault → String
  | .notFound path => s!"Configuration file not found: {path.text}"
  | .notJson path => s!"Configuration file must be JSON: {path.text}"
  | .unreadable path refusal =>
    s!"Failed to load configuration file {path.text}: {refusal.describe path.text}"
  | .badForm path fault => s!"Invalid JSON in configuration file {path.text}: {fault.message}"
  | .notObject path => s!"Configuration file must contain a JSON object: {path.text}"
  | .undecodable fault => fault.message
  | .longInteger fault => fault.message
  | .unaskable _ .nullCharacter => Disk.Refusal.nullCharacter.reason
  | .unaskable _ (.unencodable why) => why.message
  | .unaskable path refusal => refusal.describe path.text
  | .unwritable path refusal =>
    s!"Failed to save configuration to {path.text}: {refusal.describe path.text}"
  | .unencodable why => why.message
  | .longNumber =>
    s!"Exceeds the limit ({Json.digitLimit} digits) for integer string conversion; " ++
      "use sys.set_int_max_str_digits() to increase the limit"
  | .option fault => fault.message
  | .pairLength position length =>
    s!"dictionary update sequence element #{position} has length {length}; 2 is required"
  | .misuse m => m.message

def aliases : List (String × String) :=
  [("useTab", "use_tabs"), ("use_tab", "use_tabs"), ("indentSpaces", "indent_spaces"),
   ("namePrefix", "name_prefix"), ("prefix", "name_prefix"), ("docString", "doc_string"),
   ("baseClass", "base_class"), ("fileExtension", "file_extension"),
   ("initFileName", "init_file_name"), ("templateDir", "template_dir")]

def optionName (name : String) : String := (Keyed.get? name aliases).getD name

/-- The entries under their options' own names; of two entries for one option
the later one wins. -/
def named (es : Entries) : Entries := Keyed.ofList (es.map fun e => (optionName e.1, e.2))

def defaults : Entries := Draft.optionEntries {}

def layered (file overrides : Entries) : Entries :=
  (Keyed.update defaults (named file)).update (named overrides)

/-- The items of a pair, which may be written as a list, as a text of two
characters or as the keys of an object. -/
def parts? : Json → Option (List Json)
  | .list xs => some xs
  | .text s => some (s.toList.map fun c => .text (.singleton c))
  | .object es => some (es.map fun e => .text e.1)
  | _ => none

def pairsFrom (position : Nat) : List Json → Except LoadFault Custom
  | [] => .ok []
  | x :: r =>
    match parts? x with
    | none => .error (.misuse (.notAPair position))
    | some [k, v] => do
      let k ← k.asKey.mapError .misuse
      return (k, v) :: (← pairsFrom (position + 1) r)
    | some other => .error (.pairLength position other.length)

/-- The custom entries of a field, which may also be a list of pairs. -/
def entriesOf : CustomField → Except LoadFault Custom
  | .entries c => .ok c
  | .other (.list xs) => pairsFrom 0 xs
  | .other (.text s) => pairsFrom 0 (s.toList.map fun c => .text (.singleton c))
  | .other v => .error (.misuse (.notIterable v.typeName))

/-- The draft that a set of entries describes. Entries that are no options are
laid over the custom entries. -/
def draftOf (es : Entries) : Except LoadFault Draft := do
  let (options, others) := es.partition fun e => Draft.isOption e.1
  let d := options.foldl (fun d e => d.set e.1 e.2) ({} : Draft)
  if others.isEmpty then return d
  let custom ← if d.custom.truthy then entriesOf d.custom else pure []
  return { d with custom := .entries ((Custom.ofList custom).update (.ofEntries others)) }

/-- A fault that cannot be put into a message is told in another way. -/
def Fault.told (f : Fault) : LoadFault := if f.isTold then .option f else .longNumber

def Draft.checked (d : Draft) : Except LoadFault Options := d.check.mapError Fault.told

def settle (file overrides : Entries) : Except LoadFault Options := do
  let d ← draftOf (layered file overrides)
  d.checked

/-- Overrides that are no object have no entries to take, unless they count as
nothing. -/
def overridesOf (v : Json) : Except Misuse Entries :=
  if !v.truthy then .ok []
  else match v with
    | .object es => .ok es
    | v => .error (.noMember v.typeName "items")

/-- The options and the custom entries in one flat set. -/
def Draft.flat (d : Draft) : Except LoadFault Custom :=
  (entriesOf d.custom).map (Custom.ofEntries d.optionEntries).update

def flat (o : Options) : Custom :=
  (Custom.ofEntries (Draft.ofOptions o).optionEntries).update o.custom

end UmlPress.Options
