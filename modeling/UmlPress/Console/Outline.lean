import UmlPress.Console.Markup
import UmlPress.Console.Wrap

/-!
# Outlines

A tree of labels, each below its parent and joined to it by guide lines.
-/
namespace UmlPress.Console

inductive Outline where
  | node (label : String) (children : List Outline)

namespace Outline

/-- The lines of a label behind guides; nothing shows where no room is left. -/
def labelLines (columns : Nat) (first others : List Char) (label : String) :
    Except MarkupFault (List (List Char)) := do
  let room := columns - first.length
  if room = 0 then return []
  match layout .fold .none room (← unmarked label.toList) with
  | [] => return []
  | l :: r => return (first ++ l) :: r.map (others ++ ·)

mutual

/-- The lines of an outline. `first` stands in front of its first line, and
`others` in front of all others. -/
def linesOf (columns : Nat) (first others : List Char) :
    Outline → Except MarkupFault (List (List Char))
  | .node label children => do
    let own ← labelLines columns first others label
    return own ++ (← childLines columns others children)

def childLines (columns : Nat) (guides : List Char) :
    List Outline → Except MarkupFault (List (List Char))
  | [] => .ok []
  | [o] =>
    linesOf columns (guides ++ "└── ".toList) (guides ++ "    ".toList) o
  | o :: r => do
    let here ← linesOf columns (guides ++ "├── ".toList) (guides ++ "│   ".toList) o
    return here ++ (← childLines columns guides r)

end

def render (columns : Nat) (o : Outline) : Except MarkupFault (List (List Char)) :=
  linesOf columns [] [] o

end Outline

/-- The lines of a marked-up text. -/
def textLines (columns : Nat) (s : String) : Except MarkupFault (List (List Char)) :=
  (unmarked s.toList).map (layout .fold .none columns)

end UmlPress.Console
