import UmlPress.Binary64
import UmlPress.Keyed

/-!
# Values of a document

A value of the document format. The entries of an object stand in the order in
which their keys were first written, and no key stands twice.
-/
namespace UmlPress

inductive Json where
  | null
  | bool (b : Bool)
  | int (n : Int)
  | real (x : Binary64)
  | text (s : String)
  | list (items : List Json)
  | object (entries : List (String × Json))
  deriving Repr, Inhabited

/-- Entries in the order of their keys' first appearance. -/
abbrev Entries := Keyed String Json

namespace Json

/-- The member of an object, or the default if the key is missing. -/
def memberD (entries : Entries) (key : String) (default : Json) : Json :=
  (Keyed.get? key entries).getD default

mutual

/-- Something holds of a value and of every value inside it. -/
def all (p : Json → Bool) : Json → Bool
  | .list items => p (.list items) && allItems p items
  | .object entries => p (.object entries) && allEntries p entries
  | v => p v

def allItems (p : Json → Bool) : List Json → Bool
  | [] => true
  | v :: r => all p v && allItems p r

def allEntries (p : Json → Bool) : List (String × Json) → Bool
  | [] => true
  | (_, v) :: r => all p v && allEntries p r

end

/-- Whole numbers of more digits than this are neither read nor written. -/
def digitLimit : Nat := 4300

def isShort : Json → Bool
  | .int n => (Nat.toDigits 10 n.natAbs).length ≤ digitLimit
  | _ => true

/-- A value counts as true unless it is nothing: null, false, zero or empty. -/
def truthy : Json → Bool
  | .null => false
  | .bool b => b
  | .int n => n ≠ 0
  | .real x => !x.isZero
  | .text s => s ≠ ""
  | .list items => !items.isEmpty
  | .object entries => !entries.isEmpty

def orElse (v default : Json) : Json := if v.truthy then v else default

/-- The value seen as a number; a truth value counts as zero or one. -/
def number? : Json → Option (Int ⊕ Binary64)
  | .bool b => some (.inl (if b then 1 else 0))
  | .int n => some (.inl n)
  | .real x => some (.inr x)
  | _ => none

def sameNumber : Int ⊕ Binary64 → Int ⊕ Binary64 → Bool
  | .inl a, .inl b => a = b
  | .inl a, .inr y => y.compareRatio a 1 = some .eq
  | .inr x, .inl b => x.compareRatio b 1 = some .eq
  | .inr x, .inr y => x.compare? y = some .eq

mutual

/-- Numbers are equal by value whatever their type, and objects without regard
to the order of their entries. -/
def equals : Json → Json → Bool
  | .null, .null => true
  | .text a, .text b => a = b
  | .list xs, .list ys => equalLists xs ys
  | .object es, .object fs => es.length = fs.length && equalEntries es fs
  | .bool a, w => numberEquals (.inl (if a then 1 else 0)) w
  | .int n, w => numberEquals (.inl n) w
  | .real x, w => numberEquals (.inr x) w
  | _, _ => false
where
  numberEquals (a : Int ⊕ Binary64) (w : Json) : Bool :=
    match w.number? with
    | some b => sameNumber a b
    | none => false

def equalLists : List Json → List Json → Bool
  | [], [] => true
  | x :: xs, y :: ys => equals x y && equalLists xs ys
  | _, _ => false

def equalEntries : List (String × Json) → Entries → Bool
  | [], _ => true
  | (k, v) :: es, fs =>
    (match Keyed.get? k fs with
      | some w => equals v w
      | none => false) && equalEntries es fs

end

/-- Lists and objects cannot be looked up. -/
def isKey : Json → Bool
  | .list _ => false
  | .object _ => false
  | _ => true

/-- Two keys find the same thing. Unlike equality this holds of a NaN and
itself. -/
def sameKey (a b : Json) : Bool :=
  match a, b with
  | .real .nan, .real .nan => true
  | a, b => a.equals b

end Json
end UmlPress
