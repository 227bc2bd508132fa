import UmlPress.Json.Basic
import UmlPress.Text.Quoted

/-!
# Values as text

A value in names and messages, where inside a container every value is quoted and a
text on its own stands as it is. A document is written in one of two layouts: one
entry a line, each level two columns deeper, for files; and a single line with all
characters beyond the printable ASCII ones escaped.
-/
namespace UmlPress.Json

mutual

/-- A value in messages: texts in quotes, containers in brackets. -/
def quotedChars : Json → List Char
  | .null => "None".toList
  | .bool b => (if b then "True" else "False").toList
  | .int n => (toString n).toList
  | .real x => x.chars
  | .text s => Text.quoted s.toList
  | .list items => '[' :: quotedItems items ++ [']']
  | .object entries => '\x7b' :: quotedEntries entries ++ ['\x7d']

def quotedItems : List Json → List Char
  | [] => []
  | [v] => quotedChars v
  | v :: r => quotedChars v ++ ',' :: ' ' :: quotedItems r

def quotedEntries : List (String × Json) → List Char
  | [] => []
  | [(k, v)] => Text.quoted k.toList ++ ':' :: ' ' :: quotedChars v
  | (k, v) :: r =>
    Text.quoted k.toList ++ ':' :: ' ' :: quotedChars v ++ ',' :: ' ' :: quotedEntries r

end

def quoted (v : Json) : String := .ofList v.quotedChars

def display : Json → String
  | .text s => s
  | v => v.quoted

/-- The kind of a value, as messages name it. -/
def typeName : Json → String
  | .null => "NoneType"
  | .bool _ => "bool"
  | .int _ => "int"
  | .real _ => "float"
  | .text _ => "str"
  | .list _ => "list"
  | .object _ => "dict"

def shortEscape? : Char → Option Char
  | '\x22' => some '\x22'
  | '\\' => some '\\'
  | '\n' => some 'n'
  | '\r' => some 'r'
  | '\t' => some 't'
  | '\x0c' => some 'f'
  | '\x08' => some 'b'
  | _ => none

def unitEscape (n : Nat) : List Char := '\\' :: 'u' :: Text.hex 4 n

def writtenChar (c : Char) : List Char :=
  match shortEscape? c with
  | some e => ['\\', e]
  | none => if c.toNat < 0x20 then unitEscape c.toNat else [c]

/-- Codes beyond the basic plane become a pair of units. -/
def asciiCode (n : Nat) : List Char :=
  match shortEscape? (Char.ofNat n) with
  | some e => ['\\', e]
  | none =>
    if 0x20 ≤ n ∧ n < 0x7f then [Char.ofNat n]
    else if n < 0x10000 then unitEscape n
    else
      let n := n - 0x10000
      unitEscape (0xd800 + n / 1024) ++ unitEscape (0xdc00 + n % 1024)

def writtenText (s : String) : List Char := '\x22' :: s.toList.flatMap writtenChar ++ ['\x22']

def asciiText (s : String) : List Char :=
  '\x22' :: (Text.codes s.toList).flatMap asciiCode ++ ['\x22']

def writtenReal : Binary64 → List Char
  | .nan => "NaN".toList
  | .infinity negative => (if negative then "-Infinity" else "Infinity").toList
  | x => x.chars

def newLine (depth : Nat) : List Char := '\n' :: List.replicate (2 * depth) ' '

mutual

def spread (depth : Nat) : Json → List Char
  | .null => "null".toList
  | .bool b => (if b then "true" else "false").toList
  | .int n => (toString n).toList
  | .real x => writtenReal x
  | .text s => writtenText s
  | .list [] => ['[', ']']
  | .list items => '[' :: spreadItems (depth + 1) items ++ newLine depth ++ [']']
  | .object [] => ['\x7b', '\x7d']
  | .object entries => '\x7b' :: spreadEntries (depth + 1) entries ++ newLine depth ++ ['\x7d']

def spreadItems (depth : Nat) : List Json → List Char
  | [] => []
  | [v] => newLine depth ++ spread depth v
  | v :: r => newLine depth ++ spread depth v ++ ',' :: spreadItems depth r

def spreadEntries (depth : Nat) : List (String × Json) → List Char
  | [] => []
  | [(k, v)] => newLine depth ++ writtenText k ++ ':' :: ' ' :: spread depth v
  | (k, v) :: r =>
    newLine depth ++ writtenText k ++ ':' :: ' ' :: spread depth v ++
      ',' :: spreadEntries depth r

end

/-- The layout of a file. -/
def pretty (v : Json) : String := .ofList (v.spread 0)

/-- A part of a file that is written at once. A number of too many digits cannot be. -/
abbrev Part := Option (List Char)

def isContainer : Json → Bool
  | .list _ | .object _ => true
  | _ => false

/-- The parts of a value behind a text, which is one with that of a value that holds no
others. -/
def behind (before : List Char) (v : Json) (parts : List Part) : List Part :=
  if v.isContainer then some before :: parts else parts.map (·.map (before ++ ·))

mutual

/-- The layout of a file in the parts that it is written in. -/
def parts (depth : Nat) : Json → List Part
  | .list [] => [some ['[', ']']]
  | .list items => itemParts (depth + 1) ['['] items ++ [some (newLine depth), some [']']]
  | .object [] => [some ['\x7b', '\x7d']]
  | .object entries =>
    some ['\x7b'] :: entryParts (depth + 1) [] entries ++ [some (newLine depth), some ['\x7d']]
  | v => [if v.isShort then some (spread depth v) else none]

def itemParts (depth : Nat) (before : List Char) : List Json → List Part
  | [] => []
  | v :: r => behind (before ++ newLine depth) v (parts depth v) ++ itemParts depth [','] r

def entryParts (depth : Nat) (before : List Char) : List (String × Json) → List Part
  | [] => []
  | (k, v) :: r =>
    some (before ++ newLine depth) :: some (writtenText k) :: some [':', ' '] ::
      (parts depth v ++ entryParts depth [','] r)

end

mutual

def compactChars : Json → List Char
  | .null => "null".toList
  | .bool b => (if b then "true" else "false").toList
  | .int n => (toString n).toList
  | .real x => writtenReal x
  | .text s => asciiText s
  | .list items => '[' :: compactItems items ++ [']']
  | .object entries => '\x7b' :: compactEntries entries ++ ['\x7d']

def compactItems : List Json → List Char
  | [] => []
  | [v] => compactChars v
  | v :: r => compactChars v ++ ',' :: compactItems r

def compactEntries : List (String × Json) → List Char
  | [] => []
  | [(k, v)] => asciiText k ++ ':' :: compactChars v
  | (k, v) :: r => asciiText k ++ ':' :: compactChars v ++ ',' :: compactEntries r

end

def compact (v : Json) : String := .ofList v.compactChars

end UmlPress.Json
