/-!
# Paths

A path is a root, which may be missing, and components. Reading a path drops
empty components and the component `.`, and keeps `..`. Two slashes at the
front are a root of their own; three or more count as one.
-/
namespace UmlPress

inductive Root where
  | none
  | single
  | double
  deriving Repr, DecidableEq

structure Path where
  root : Root
  parts : List String
  deriving Repr, DecidableEq

namespace Path

/-- The pieces of a text between slashes. -/
def components : List Char → List (List Char)
  | [] => [[]]
  | '/' :: r => [] :: components r
  | c :: r =>
    match components r with
    | [] => [[c]]
    | p :: ps => (c :: p) :: ps

def keeps (piece : List Char) : Bool := piece ≠ [] && piece ≠ ['.']

def rootOf : List Char → Root
  | '/' :: '/' :: '/' :: _ => .single
  | '/' :: '/' :: _ => .double
  | '/' :: _ => .single
  | _ => .none

def ofChars (s : List Char) : Path :=
  ⟨rootOf s, ((components s).filter keeps).map .ofList⟩

def ofString (s : String) : Path := ofChars s.toList

def here : Path := ⟨.none, []⟩

/-- A path with a root stands for itself; any other is looked up below. -/
def join (base below : Path) : Path :=
  if below.root = .none then ⟨base.root, base.parts ++ below.parts⟩ else below

def child (base : Path) (name : String) : Path := base.join (ofString name)

def Root.text : Root → String
  | .none => ""
  | .single => "/"
  | .double => "//"

def text (p : Path) : String :=
  if p.root = .none ∧ p.parts = [] then "." else Root.text p.root ++ "/".intercalate p.parts

/-- The last component, or nothing. -/
def name (p : Path) : String := p.parts.getLast?.getD ""

/-- The part of a file name from its last dot on. A dot at either end of the
name does not count. -/
def suffixChars (s : List Char) : List Char :=
  let tail := (s.reverse.takeWhile (· ≠ '.')).reverse
  let front := s.length - tail.length
  if tail = [] ∨ front < 2 then [] else '.' :: tail

def suffix (p : Path) : List Char := suffixChars p.name.toList

theorem join_of_root_none {p q : Path} (h : q.root = .none) :
    p.join q = ⟨p.root, p.parts ++ q.parts⟩ := by simp [join, h]

end Path
end UmlPress
