import UmlPress.Console.Cells
import UmlPress.Text.Blank

/-!
# Lines of a limited width

A text is broken between words, and the white space behind a word stays with
it. A word that is too wide for any line is folded or, where that is not
wanted, cut short.
-/
namespace UmlPress.Console

inductive Overflow where
  | fold
  | ellipsis
  deriving Repr, DecidableEq

inductive Justify where
  | none
  | left
  | center
  deriving Repr, DecidableEq

/-- A text with spaces in place of tabs, up to the next multiple of a number of
columns. -/
def untabbed (tab : Nat) (s : List Char) : List Char :=
  let step (acc : List Char × List Char) (c : Char) : List Char × List Char :=
    if c = '\t' then
      let done := acc.1 ++ acc.2 ++ [' ']
      let excess := width done % tab
      (done ++ (if excess = 0 then [] else spaces (tab - excess)), [])
    else (acc.1, acc.2 ++ [c])
  let (done, rest) := s.foldl step ([], [])
  done ++ rest

/-- The words of a text, each with the white space behind it, and the first
with that in front of it. Fuel is the length of the text. -/
def wordsFrom : Nat → List Char → List (List Char)
  | 0, _ => []
  | n + 1, s =>
    let lead := s.takeWhile Text.isBlank
    let rest := s.dropWhile Text.isBlank
    let word := rest.takeWhile fun c => !Text.isBlank c
    let rest := rest.dropWhile fun c => !Text.isBlank c
    if word = [] then []
    else (lead ++ word ++ rest.takeWhile Text.isBlank) :: wordsFrom n (rest.dropWhile Text.isBlank)

def wordsOf (s : List Char) : List (List Char) := wordsFrom s.length s

/-- Lines that are full, the last one first, and the one being filled. -/
structure Filling where
  full : List (List Char) := []
  line : List Char := []
  used : Nat := 0

namespace Filling

def isStart (f : Filling) : Bool := f.full.isEmpty && f.line.isEmpty

/-- Starts a new line, unless nothing has been placed yet. -/
def turn (f : Filling) : List (List Char) := if f.isStart then f.full else f.line :: f.full

/-- Lets lines stand on their own, the last of them still to be filled. -/
def take (f : Filling) : List (List Char) → Filling
  | [] => f
  | [l] => ⟨f.turn, l, width l⟩
  | l :: r => take ⟨f.turn, l, width l⟩ r

def place (room : Nat) (fold : Bool) (f : Filling) (word : List Char) : Filling :=
  let need := width (Text.trimEnd word)
  if f.used + need ≤ room then { f with line := f.line ++ word, used := f.used + width word }
  else if room < need then f.take (if fold then pieces room word else [word])
  else if f.used = 0 then { f with line := f.line ++ word }
  else f.take [word]

def lines (f : Filling) : List (List Char) := (f.line :: f.full).reverse

end Filling

/-- A line without the white space at its end that makes it too long. -/
def trimmedTo (room : Nat) (s : List Char) : List Char :=
  let blanks := s.length - (Text.trimEnd s).length
  s.take (s.length - min blanks (s.length - room))

def broken (room : Nat) (fold : Bool) (s : List Char) : List (List Char) :=
  match wordsOf s with
  | [] => [trimmedTo room s]
  | ws => ((ws.foldl (Filling.place room fold) {}).lines).map (trimmedTo room)

def limited (overflow : Overflow) (room : Nat) (s : List Char) : List Char :=
  match overflow with
  | .fold => cropped room s
  | .ellipsis => shortened room s

def justified (overflow : Overflow) (justify : Justify) (room : Nat) (s : List Char) :
    List Char :=
  match justify with
  | .none => limited overflow room s
  | .left => padded room (limited overflow room s)
  | .center =>
    let s := limited overflow room (Text.trimEnd s)
    padded room (spaces ((room - width s) / 2) ++ s)

/-- How far apart the tab stops of a console are. -/
def tabStops : Nat := 8

/-- The lines of a text. -/
def layout (overflow : Overflow) (justify : Justify) (room : Nat) (s : List Char) :
    List (List Char) :=
  (Text.pieces s).flatMap fun piece =>
    (broken room (overflow = .fold) (untabbed tabStops piece)).map
      (justified overflow justify room)

end UmlPress.Console
