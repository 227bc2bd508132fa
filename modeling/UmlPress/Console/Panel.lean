import UmlPress.Console.Listing
import UmlPress.Console.Markup
import UmlPress.Console.Wrap

/-!
# Panels

A panel shows a listing in a frame of the full width with a title in its upper
edge. Lines that are too long are cut off.
-/
namespace UmlPress.Console.Panel

/-- How far apart the tab stops of a listing are. -/
def tabStops : Nat := 4

/-- A listing with spaces in place of tabs. -/
def untabbedFrom (column : Nat) : List Char → List Char
  | [] => []
  | '\t' :: r =>
    let n := tabStops - column % tabStops
    spaces n ++ untabbedFrom (column + n) r
  | c :: r =>
    c :: untabbedFrom (if c = '\n' || c = '\r' then 0 else column + 1) r

/-- A byte order mark at the front is no part of a listing. -/
def withoutMark : List Char → List Char
  | '\ufeff' :: r => r
  | s => s

/-- A line as the stretches that it is measured by. -/
abbrev Line := List (List Char)

def Line.text (l : Line) : List Char := l.flatten

/-- Stretches cut at line ends into lines. -/
def linesOf : List (List Char) → List Line
  | [] => [[]]
  | s :: r =>
    match Text.pieces s, linesOf r with
    | [], made => made
    | [piece], line :: lines => (piece :: line) :: lines
    | parts, line :: lines =>
      (parts.dropLast.map fun piece => [piece]) ++ ((parts.getLast?.toList ++ line) :: lines)
    | parts, [] => parts.map fun piece => [piece]

/-- The lines of a listing. One that does not end a line is taken to end it, and
one that does has an empty line behind it. -/
def listing (s : List Char) : List Line :=
  let ended := s.getLast? = some '\n'
  let s := untabbedFrom 0 (if ended then s else s ++ ['\n'])
  let stretches := Listing.cut (Text.unifyLineEnds (withoutMark s))
  let shown := linesOf (stretches.map fun t => t.filter Markup.shows)
  if ended then shown else shown.dropLast

/-- The columns that stretches take, each measured by itself. -/
def Line.width (l : Line) : Nat := total (l.map Console.width)

/-- As many stretches as fit, the last one cut down. -/
def Line.cutTo (room : Nat) : Line → List Char
  | [] => []
  | s :: r =>
    if Console.width s < room then s ++ Line.cutTo (room - Console.width s) r else fit room s

/-- A text cut out of the front of stretches, as stretches. -/
def Line.front (count : Nat) : Line → Line
  | [] => []
  | s :: r =>
    if s.length ≤ count then s :: Line.front (count - s.length) r else [s.take count]

/-- A line is fitted as a whole first. Where its stretches do not take as many
columns by themselves, it is filled up or cut down once more. -/
def Line.fitted (room : Nat) (l : Line) : List Char :=
  let n := Console.width l.text
  let line : Line :=
    if n ≤ room then l ++ [spaces (room - n)]
    else
      let kept := fit room l.text
      let same := (kept.zip l.text).takeWhile (fun e => e.1 = e.2) |>.length
      l.front same ++ [kept.drop same]
  let n := line.width
  if n ≤ room then line.text ++ spaces (room - n) else line.cutTo room

/-- A title between rules of the same length, the right one longer if need be. -/
def upperEdge (room : Nat) (title : List Char) : List Char :=
  let oneLine := title.map fun c => if c = '\n' then ' ' else c
  let shown := cropped room (' ' :: untabbed Console.tabStops oneLine ++ [' '])
  let excess := room - width shown
  "╭─".toList ++ List.replicate (excess / 2) '─' ++ shown ++
    List.replicate (excess - excess / 2) '─' ++ "─╮".toList

def lines (columns : Nat) (title code : List Char) : List (List Char) :=
  let room := columns - 4
  upperEdge room title ::
    (listing code).map (fun l => "│ ".toList ++ l.fitted room ++ " │".toList) ++
    ['╰' :: List.replicate (columns - 2) '─' ++ ['╯']]

/-- The lines of a panel whose title is a marked-up text. -/
def render (columns : Nat) (title code : String) : Except MarkupFault (List (List Char)) :=
  (unmarked title.toList).map fun title => lines columns title code.toList

end UmlPress.Console.Panel
