import UmlPress.Keyed
import UmlPress.Path
import UmlPress.Text.Blank
import UmlPress.Text.Quoted
import UmlPress.Text.Utf8

/-!
# A file system

A file system is known by its entries, each under the names on the way down to
it from the top. A path is followed one name at a time, `..` leads to the
directory above, and every name but the last must be that of a directory that
may be searched. Names and files are bytes: a text with half of a character in it
can be neither, but for the halves that stand for bytes in names.
-/
namespace UmlPress

inductive Content where
  | text (s : String)
  | bytes (bs : List UInt8)
  deriving Repr

inductive Item where
  | directory
  | file (content : Content)
  deriving Repr

structure Disk where
  entries : Keyed (List String) Item := []
  /-- The names of the directory that paths without a root start from. -/
  here : List String := []
  /-- Names are limited in length, counted in bytes, and so are whole paths. -/
  nameLimit : Nat := 255
  pathLimit : Nat := 4095
  /-- The directories that must not be searched. -/
  closed : List (List String) := []

namespace Disk

inductive Refusal where
  | missing
  | notDirectory
  | isDirectory
  | alreadyThere
  | nameTooLong
  | denied
  /-- A path with a null character in it cannot be asked for. -/
  | nullCharacter
  /-- A path or a content that no bytes can be made of. -/
  | unencodable (why : Text.Unencodable)
  /-- Anything else, as the system tells it. -/
  | other (number : Nat) (reason : String)
  deriving Repr, DecidableEq

namespace Refusal

def number : Refusal → Nat
  | .missing => 2
  | .denied => 13
  | .alreadyThere => 17
  | .notDirectory => 20
  | .isDirectory => 21
  | .nameTooLong => 36
  | .nullCharacter => 0
  | .unencodable _ => 0
  | .other number _ => number

def reason : Refusal → String
  | .missing => "No such file or directory"
  | .denied => "Permission denied"
  | .alreadyThere => "File exists"
  | .notDirectory => "Not a directory"
  | .isDirectory => "Is a directory"
  | .nameTooLong => "File name too long"
  | .nullCharacter => "embedded null byte"
  | .unencodable why => why.message
  | .other _ reason => reason

/-- Whether a refusal only says that nothing is there. Any other one is told. -/
def isAbsent : Refusal → Bool
  | .missing | .notDirectory | .nullCharacter | .unencodable _ => true
  | .other number _ => number = 9 || number = 40
  | _ => false

/-- A refusal with the path it concerns. -/
def describe (r : Refusal) (shown : String) : String :=
  s!"[Errno {r.number}] {r.reason}: {String.ofList (Text.quoted shown.toList)}"

end Refusal

def get? (d : Disk) (names : List String) : Option Item :=
  if names = [] then some .directory else Keyed.get? names d.entries

/-- One name further down, or up, from a directory. -/
def descend (d : Disk) (above : List String) (name : String) : Except Refusal (List String) :=
  match d.get? above with
  | some (.file _) => .error .notDirectory
  | none => .error .missing
  | some .directory =>
    if above ∈ d.closed then .error .denied
    else if name = ".." then .ok above.dropLast
    else if d.nameLimit < Text.nameSize name.toList then .error .nameTooLong
    else .ok (above ++ [name])

def follow (d : Disk) : List String → List String → Except Refusal (List String)
  | above, [] => .ok above
  | above, name :: r => (d.descend above name).bind (d.follow · r)

/-- A name as it stands in a directory. -/
def spelled (name : String) : String := .ofList (Text.Utf8.spelled name.toList)

/-- The names that a path leads to. The last one need not be there. -/
def resolve (d : Disk) (p : Path) : Except Refusal (List String) :=
  match Text.unspellable? p.text.toList with
  | some why => .error (.unencodable why)
  | none =>
    if p.text.contains '\x00' then .error .nullCharacter
    else if d.pathLimit < Text.nameSize p.text.toList then .error .nameTooLong
    else d.follow (if p.root = .none then d.here else []) (p.parts.map spelled)

/-- What a path must be to be followed. -/
theorem resolve_eq_ok {d : Disk} {p : Path} {place : List String} :
    d.resolve p = .ok place ↔
    Text.unspellable? p.text.toList = none ∧ '\x00' ∉ p.text.toList ∧
      Text.nameSize p.text.toList ≤ d.pathLimit ∧
        d.follow (if p.root = .none then d.here else []) (p.parts.map spelled) = .ok place := by
  unfold resolve
  rw [String.contains_char_eq]
  cases Text.unspellable? p.text.toList with
  | some why => simp
  | none =>
    dsimp only
    split
    case isTrue hnull => simp [of_decide_eq_true hnull]
    case isFalse hnull =>
      rw [decide_eq_true_eq] at hnull
      split
      case isTrue hlong => simp [hnull, Nat.not_le.2 hlong]
      case isFalse hlong => simp [hnull, Nat.not_lt.1 hlong]

def status (d : Disk) (p : Path) : Except Refusal Item := do
  match d.get? (← d.resolve p) with
  | some item => .ok item
  | none => .error .missing

theorem status_of_resolve {d : Disk} {p : Path} {place : List String} {item : Item}
    (h : d.resolve p = .ok place) (hitem : d.get? place = some item) :
    d.status p = .ok item := by
  unfold status
  rw [h]
  simp only [bind, Except.bind, hitem]

def isDirectory (d : Disk) (p : Path) : Except Refusal Bool :=
  match d.status p with
  | .ok .directory => .ok true
  | .ok (.file _) => .ok false
  | .error r => if r.isAbsent then .ok false else .error r

def makeDirectory (d : Disk) (p : Path) : Except Refusal Disk := do
  let names ← d.resolve p
  match d.get? names with
  | some _ => .error .alreadyThere
  | none => .ok { d with entries := Keyed.put names .directory d.entries }

/-- Fills a file with a text that bytes can be made of. -/
def fill (d : Disk) (p : Path) (content : String) : Except Refusal Disk := do
  let names ← d.resolve p
  match d.get? names with
  | some .directory => .error .isDirectory
  | _ => .ok { d with entries := Keyed.put names (.file (.text content)) d.entries }

/-- Writes a file. It is emptied before it is known whether the content can be written. -/
def write (d : Disk) (p : Path) (content : String) : Except Refusal Unit × Disk :=
  match Text.unencodable? content.toList with
  | none =>
    match d.fill p content with
    | .ok written => (.ok (), written)
    | .error r => (.error r, d)
  | some why =>
    match d.fill p "" with
    | .ok emptied => (.error (.unencodable why), emptied)
    | .error r => (.error r, d)

/-- The content of a file as it stands. -/
def content (d : Disk) (p : Path) : Except Refusal Content := do
  match ← d.status p with
  | .directory => .error .isDirectory
  | .file c => .ok c

end Disk

/-- The characters of a file, every kind of line end turned into a line feed. -/
def Content.read : Content → Except Text.Utf8.Fault (List Char)
  | .text s => .ok (Text.unifyLineEnds s.toList)
  | .bytes bs => (Text.Utf8.decode bs).map fun cs => Text.unifyLineEnds (Text.hold cs)

namespace Disk

/-- The names of a path when `..` takes back the name before it, whatever that
is the name of. -/
def lexical (d : Disk) (p : Path) : List String :=
  p.parts.foldl
    (fun names name => if name = ".." then names.dropLast else names ++ [spelled name])
    (if p.root = .none then d.here else [])

/-- Adds to a file, which is made if it is not there. -/
def append (d : Disk) (names : List String) (more : String) : Except Refusal Disk := do
  let bytes ← (Text.encode more.toList).mapError .unencodable
  let names ← d.follow [] names
  let put (c : Content) : Disk := { d with entries := Keyed.put names (.file c) d.entries }
  match d.get? names with
  | some .directory => .error .isDirectory
  | some (.file (.text s)) => .ok (put (.text (s ++ more)))
  | some (.file (.bytes bs)) => .ok (put (.bytes (bs ++ bytes)))
  | none => .ok (put (.text more))

/-- An empty file system with a starting directory two levels below the top,
under names that no path can spell. -/
def fresh : Disk where
  entries := [([""], .directory), (["", ""], .directory)]
  here := ["", ""]

/-- Puts an item where a path leads from the starting directory, together with
the directories above it. -/
def provide (d : Disk) (p : Path) (item : Item) : Disk :=
  let above := (List.range p.parts.length).drop 1 |>.map fun n => d.here ++ p.parts.take n
  let made := above.foldl (fun es names =>
    if (Keyed.get? names es).isSome then es else Keyed.put names .directory es) d.entries
  { d with entries := Keyed.put (d.here ++ p.parts) item made }

/-- Everything below a directory, by the path from there. -/
def listing (d : Disk) (top : List String) : List (List String × Item) :=
  d.entries.filterMap fun e =>
    if top.isPrefixOf e.1 ∧ top.length < e.1.length then some (e.1.drop top.length, e.2) else none

end Disk
end UmlPress
