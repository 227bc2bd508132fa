/-!
# White space and line breaks

A class of characters is a list of closed code point ranges. The tables of the
neighbouring modules are data of the Unicode standard, version 14.

There are two different classes of blanks: the characters that may be stripped
from the ends of a text, and the ones that end a line. A carriage return followed
by a line feed is one line break, and a text that ends with a break has no empty
last line.
-/
namespace UmlPress.Text

/-- The character lies in one of the closed ranges of the table. -/
def within (table : List (Nat × Nat)) (c : Char) : Bool :=
  table.any fun r => r.1 ≤ c.toNat && c.toNat ≤ r.2

def isBlank (c : Char) : Bool :=
  within [(0x9, 0xd), (0x1c, 0x20), (0x85, 0x85), (0xa0, 0xa0), (0x1680, 0x1680),
    (0x2000, 0x200a), (0x2028, 0x2029), (0x202f, 0x202f), (0x205f, 0x205f),
    (0x3000, 0x3000)] c

def isBreak (c : Char) : Bool :=
  within [(0xa, 0xd), (0x1c, 0x1e), (0x85, 0x85), (0x2028, 0x2029)] c

/-- The text without the characters of a class at its end. -/
def trimEndBy (drop : Char → Bool) : List Char → List Char
  | [] => []
  | c :: r =>
    match trimEndBy drop r with
    | [] => if drop c then [] else [c]
    | kept => c :: kept

def trimEnd (s : List Char) : List Char := trimEndBy isBlank s

def trim (s : List Char) : List Char := trimEnd (s.dropWhile isBlank)

/-- Puts a character in front of the first of some lines. -/
def consLine (c : Char) : List (List Char) → List (List Char)
  | [] => [[c]]
  | l :: ls => (c :: l) :: ls

/-- The lines of a text, without their breaks. -/
def lines : List Char → List (List Char)
  | [] => []
  | '\r' :: '\n' :: r => [] :: lines r
  | c :: r => if isBreak c then [] :: lines r else consLine c (lines r)

/-- The pieces between line feeds; a text without one is a single piece. -/
def pieces : List Char → List (List Char)
  | [] => [[]]
  | c :: r => if c = '\n' then [] :: pieces r else consLine c (pieces r)

/-- A text file is read with every kind of line end turned into a line feed. -/
def unifyLineEnds : List Char → List Char
  | [] => []
  | '\r' :: '\n' :: r => '\n' :: unifyLineEnds r
  | c :: r => (if c = '\r' then '\n' else c) :: unifyLineEnds r

end UmlPress.Text

namespace UmlPress

def trimText (s : String) : String := .ofList (Text.trim s.toList)

def splitLines (s : String) : List String := (Text.lines s.toList).map .ofList

end UmlPress
