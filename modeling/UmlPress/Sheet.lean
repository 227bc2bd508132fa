import UmlPress.Text.Blank

/-!
# Sheets of indented lines

A sheet takes one line at a time and puts the indentation of its depth in
front of it. An empty line gets none.
-/
namespace UmlPress

structure Sheet where
  unit : String := "    "
  depth : Nat := 0
  lines : List String := []
  deriving Repr, DecidableEq

namespace Sheet

def indent (s : Sheet) : Sheet := { s with depth := s.depth + 1 }

/-- At depth zero there is nothing to leave. -/
def outdent (s : Sheet) : Sheet := { s with depth := s.depth - 1 }

def margin (s : Sheet) : String := String.join (List.replicate s.depth s.unit)

def indented (s : Sheet) (line : String) : String :=
  if line = "" then "" else s.margin ++ line

def write (s : Sheet) (line : String) : Sheet :=
  { s with lines := s.lines ++ [s.indented line] }

def skip (s : Sheet) : Sheet := s.write ""

def writeAll (s : Sheet) (lines : List String) : Sheet :=
  { s with lines := s.lines ++ lines.map s.indented }

/-- Every line of a text at the current depth. -/
def writeText (s : Sheet) (text : String) : Sheet := s.writeAll (splitLines text)

def text (s : Sheet) : String := "\n".intercalate s.lines

end Sheet
end UmlPress
