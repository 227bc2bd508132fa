import UmlPress.Json.Writer
import UmlPress.Misuse
import UmlPress.Path
import UmlPress.Template.Shelf

/-!
# Faults and reports

What can go wrong with a single element of a model is a fault: it concerns one
subtree, and the rest is still emitted. Any other trouble puts an end to the run.
A report lists what a run wrote, the directories it made and the elements that
failed, each in the order of the run.
-/
namespace UmlPress.Emit

inductive Fault where
  | directory (shown reason : String)
  | file (shown reason : String)
  /-- An element inherits from one that is not in the model. -/
  | unresolved (source target : Json)
  | missingTemplate (name : String)
  | brokenTemplate (name cause : String)
  | unsupportedKind
  | noPackage (request : Json)
  | reported (text : String)

def because (message reason : String) : String :=
  if reason = "" then message else message ++ ": " ++ reason

def Fault.message : Fault → String
  | .directory shown reason => because s!"Cannot create directory {shown}" reason
  | .file shown reason => because s!"Cannot write file {shown}" reason
  | .unresolved source target =>
    s!"Relationship from '{source.display}' references unknown element '{target.display}'"
  | .missingTemplate name => s!"Template not found: {name}"
  | .brokenTemplate name cause => s!"Failed to render template {name}: {cause}"
  | .unsupportedKind => "Unsupported node kind: unsupported"
  | .noPackage request => s!"Package not found: {request.display}"
  | .reported text => text

inductive Trouble where
  | fault (f : Fault)
  | misuse (m : Misuse)
  | unusable (why : Template.Unusable)
  /-- A path that the file system cannot be asked about. -/
  | refused (shown : String) (refusal : Disk.Refusal)

namespace Trouble

def ofUnrendered : Template.Unrendered → Trouble
  | .missing name => .fault (.missingTemplate name)
  | .broken name f => .fault (.brokenTemplate name f.message)
  | .unusable why => .unusable why

/-- What a file system refuses becomes a fault, if it can be asked at all. -/
def ofRefusal (fault : String → Fault) (shown : String) : Disk.Refusal → Trouble
  | .nullCharacter => .refused shown .nullCharacter
  | .unencodable why => .refused shown (.unencodable why)
  | r => .fault (fault r.reason)

def message : Trouble → String
  | .fault f => f.message
  | .misuse m => m.message
  | .unusable why => why.message
  | .refused _ .nullCharacter => Disk.Refusal.nullCharacter.reason
  | .refused _ (.unencodable why) => why.message
  | .refused shown r => r.describe shown

end Trouble

structure Failure where
  place : String
  fault : Fault

def Failure.text (f : Failure) : String := f.place ++ ": " ++ f.fault.message

structure Report where
  generated : List Path := []
  directories : List Path := []
  failures : List Failure := []

namespace Report

def append (r s : Report) : Report :=
  ⟨r.generated ++ s.generated, r.directories ++ s.directories, r.failures ++ s.failures⟩

instance : Append Report := ⟨append⟩

def fail (r : Report) (place : String) (fault : Fault) : Report :=
  { r with failures := r.failures ++ [⟨place, fault⟩] }

def success (r : Report) : Bool := r.failures.isEmpty

theorem append_def (r s : Report) : r ++ s =
    ⟨r.generated ++ s.generated, r.directories ++ s.directories, r.failures ++ s.failures⟩ := rfl

theorem append_assoc (r s t : Report) : r ++ s ++ t = r ++ (s ++ t) := by
  simp [append_def]

theorem append_empty (r : Report) : r ++ {} = r := by simp [append_def]

end Report
end UmlPress.Emit
