import UmlPress.Json.Basic
import UmlPress.Text.Half

/-!
# Reading a document

The reader goes from left to right and stops at the first character that
cannot be read. A complaint carries how many characters were left, from which
its line and column are counted.
-/
namespace UmlPress.Json.Reader

inductive Complaint where
  | value
  | propertyName
  | colon
  | comma
  | extraData
  | unterminated
  | controlCharacter
  | escape
  | unitEscape
  | byteOrderMark
  /-- A whole number of too many digits. -/
  | longInteger (digits : Nat)
  deriving DecidableEq, Repr

/-- A complaint and the number of characters from its place to the end. -/
structure Stop where
  complaint : Complaint
  left : Nat
  deriving DecidableEq, Repr

def stop {α : Type} (complaint : Complaint) (rest : List Char) : Except Stop α :=
  .error ⟨complaint, rest.length⟩

def isSpace (c : Char) : Bool := c = ' ' || c = '\t' || c = '\n' || c = '\r'

def skip (cs : List Char) : List Char := cs.dropWhile isSpace

def hexValue? (c : Char) : Option Nat :=
  let n := c.toNat
  if 48 ≤ n ∧ n ≤ 57 then some (n - 48)
  else if 97 ≤ n ∧ n ≤ 102 then some (n - 87)
  else if 65 ≤ n ∧ n ≤ 70 then some (n - 55)
  else none

/-- A code unit written in four hexadecimal digits, something being left. -/
def unit? : List Char → Option (Nat × List Char)
  | a :: b :: c :: d :: e :: r => do
    let a ← hexValue? a
    let b ← hexValue? b
    let c ← hexValue? c
    let d ← hexValue? d
    return (((a * 16 + b) * 16 + c) * 16 + d, e :: r)
  | _ => none

/-- The second unit of a pair, if one follows. A second unit that is not
written in full is complained of at its letter. -/
def lowUnit (r : List Char) : Except Stop (Option (Nat × List Char)) :=
  match r with
  | '\\' :: 'u' :: s =>
    if s.length ≤ 4 then .ok none
    else
      match unit? s with
      | none => stop .unitEscape ('u' :: s)
      | some (v, t) => .ok (if 0xdc00 ≤ v ∧ v < 0xe000 then some (v, t) else none)
  | _ => .ok none

/-- The code after a backslash and the letter `u`. -/
def escapedUnit (r : List Char) : Except Stop (Nat × List Char) :=
  match unit? r with
  | none => stop .unitEscape ('u' :: r)
  | some (u, s) =>
    if 0xd800 ≤ u ∧ u < 0xdc00 then do
      match ← lowUnit s with
      | some (v, t) => return (0x10000 + (u - 0xd800) * 1024 + (v - 0xdc00), t)
      | none => return (u, s)
    else .ok (u, s)

def escaped? : Char → Option Char
  | '\x22' => some '\x22'
  | '\\' => some '\\'
  | '/' => some '/'
  | 'b' => some '\x08'
  | 'f' => some '\x0c'
  | 'n' => some '\n'
  | 'r' => some '\r'
  | 't' => some '\t'
  | _ => none

/-- The rest of a text after its opening quote; `opened` characters were left
at that quote. -/
def textTail (opened : Nat) : Nat → List Char → Except Stop (List Char × List Char)
  | 0, _ => .error ⟨.unterminated, opened⟩
  | fuel + 1, cs =>
    match cs with
    | [] => .error ⟨.unterminated, opened⟩
    | '\x22' :: r => .ok ([], r)
    | '\\' :: [] => .error ⟨.unterminated, opened⟩
    | '\\' :: 'u' :: r => do
      let (n, s) ← escapedUnit r
      let (t, s) ← textTail opened fuel s
      return (Text.held n ++ t, s)
    | '\\' :: e :: r =>
      match escaped? e with
      | none => stop .escape ('\\' :: e :: r)
      | some c => do
        let (t, s) ← textTail opened fuel r
        return (c :: t, s)
    | c :: r =>
      if c.toNat < 0x20 then stop .controlCharacter (c :: r)
      else do
        let (t, s) ← textTail opened fuel r
        return (c :: t, s)

/-- A text whose opening quote stands in front of `r`. -/
def quotedText (r : List Char) : Except Stop (String × List Char) := do
  let (t, s) ← textTail (r.length + 1) (r.length + 1) r
  return (.ofList t, s)

def isDigit (c : Char) : Bool := 48 ≤ c.toNat && c.toNat ≤ 57

def digitsValue (ds : List Char) : Nat := ds.foldl (fun n c => 10 * n + (c.toNat - 48)) 0

/-- The digits after a point, if there are any. -/
def fraction? : List Char → Option (List Char × List Char)
  | '.' :: r =>
    let ds := r.takeWhile isDigit
    if ds.isEmpty then none else some (ds, r.dropWhile isDigit)
  | _ => none

def exponentDigits? (negative : Bool) (r : List Char) : Option (Int × List Char) :=
  let ds := r.takeWhile isDigit
  if ds.isEmpty then none
  else some (if negative then -(digitsValue ds : Int) else digitsValue ds, r.dropWhile isDigit)

def exponent? : List Char → Option (Int × List Char)
  | e :: r =>
    if e = 'e' ∨ e = 'E' then
      match r with
      | '-' :: s => exponentDigits? true s
      | '+' :: s => exponentDigits? false s
      | s => exponentDigits? false s
    else none
  | [] => none

/-- The digits of a whole number: a single zero, or digits without one in
front. -/
def whole? : List Char → Option (List Char × List Char)
  | '0' :: r => some (['0'], r)
  | c :: r =>
    if isDigit c then some ((c :: r).takeWhile isDigit, (c :: r).dropWhile isDigit) else none
  | [] => none

/-- A number; it is whole unless it has a fraction or an exponent. -/
def number (negative : Bool) (whole rest start : List Char) : Except Stop (Json × List Char) :=
  let part := fraction? rest
  let rest := (part.map (·.2)).getD rest
  let ds := (part.map (·.1)).getD []
  let power := exponent? rest
  let rest := (power.map (·.2)).getD rest
  if part.isNone && power.isNone then
    if digitLimit < whole.length then stop (.longInteger whole.length) start
    else
      .ok (.int (if negative then -(digitsValue whole : Int) else digitsValue whole), rest)
  else
    let e := (power.map (·.1)).getD 0 - ds.length
    .ok (.real (.ofDecimal negative (digitsValue (whole ++ ds)) e), rest)

/-- The rest of the text after a fixed word, if it starts with it. -/
def afterWord? : List Char → List Char → Option (List Char)
  | [], cs => some cs
  | _ :: _, [] => none
  | w :: ws, c :: cs => if w = c then afterWord? ws cs else none

def words : List (String × Json) :=
  [("null", .null), ("true", .bool true), ("false", .bool false), ("NaN", .real .nan),
    ("Infinity", .real (.infinity false)), ("-Infinity", .real (.infinity true))]

/-- A word or a number. -/
def scalar (cs : List Char) : Except Stop (Json × List Char) :=
  match words.findSome? (fun w => (afterWord? w.1.toList cs).map (w.2, ·)) with
  | some found => .ok found
  | none =>
    let (negative, unsigned) :=
      match cs with
      | '-' :: r => (true, r)
      | r => (false, r)
    match whole? unsigned with
    | some (ds, rest) => number negative ds rest cs
    | none => stop .value cs

mutual

/-- One value. The fuel bounds the depth; a container takes one of it for itself and
one for its items, so that twice the number of characters is enough. -/
def value : Nat → List Char → Except Stop (Json × List Char)
  | 0, cs => stop .value cs
  | fuel + 1, cs =>
    match cs with
    | '\x22' :: r => do
      let (s, rest) ← quotedText r
      return (.text s, rest)
    | '[' :: r =>
      match skip r with
      | ']' :: rest => .ok (.list [], rest)
      | r => do
        let (items, rest) ← items fuel r
        return (.list items, rest)
    | '\x7b' :: r =>
      match skip r with
      | '\x7d' :: rest => .ok (.object [], rest)
      | r => do
        let (entries, rest) ← members fuel r
        return (.object (Keyed.ofList entries), rest)
    | cs => scalar cs

def items : Nat → List Char → Except Stop (List Json × List Char)
  | 0, cs => stop .value cs
  | fuel + 1, cs => do
    let (v, rest) ← value fuel cs
    match skip rest with
    | ']' :: rest => return ([v], rest)
    | ',' :: rest => do
      let (vs, rest) ← items fuel (skip rest)
      return (v :: vs, rest)
    | rest => stop .comma rest

def members : Nat → List Char → Except Stop (Entries × List Char)
  | 0, cs => stop .value cs
  | fuel + 1, cs =>
    match cs with
    | '\x22' :: r => do
      let (k, rest) ← quotedText r
      match skip rest with
      | ':' :: rest => do
        let (v, rest) ← value fuel (skip rest)
        match skip rest with
        | '\x7d' :: rest => return ([(k, v)], rest)
        | ',' :: rest => do
          let (es, rest) ← members fuel (skip rest)
          return ((k, v) :: es, rest)
        | rest => stop .comma rest
      | rest => stop .colon rest
    | cs => stop .propertyName cs

end

/-- The one value of a whole text. -/
def document (cs : List Char) : Except Stop Json :=
  match cs with
  | '\ufeff' :: _ => stop .byteOrderMark cs
  | cs => do
    let (v, rest) ← value (2 * cs.length + 2) (skip cs)
    match skip rest with
    | [] => return v
    | rest => stop .extraData rest

end UmlPress.Json.Reader

namespace UmlPress.Json

/-- A complaint at its place in the text: the characters before it, its line
and its column, both counted from one. -/
structure Fault where
  complaint : Reader.Complaint
  offset : Nat
  line : Nat
  column : Nat
  deriving DecidableEq, Repr

def Reader.Complaint.message : Reader.Complaint → String
  | .value => "Expecting value"
  | .propertyName => "Expecting property name enclosed in double quotes"
  | .colon => "Expecting ':' delimiter"
  | .comma => "Expecting ',' delimiter"
  | .extraData => "Extra data"
  | .unterminated => "Unterminated string starting at"
  | .controlCharacter => "Invalid control character at"
  | .escape => "Invalid \\escape"
  | .unitEscape => "Invalid \\uXXXX escape"
  | .byteOrderMark => "Unexpected UTF-8 BOM (decode using utf-8-sig)"
  | .longInteger digits =>
    "Exceeds the limit (" ++ toString digitLimit ++
      " digits) for integer string conversion: value has " ++ toString digits ++
      " digits; use sys.set_int_max_str_digits() to increase the limit"

/-- The line of the last of some characters and the characters since its
start. -/
def place (before : List Char) : Nat × Nat :=
  (before.count '\n' + 1, (before.reverse.takeWhile (· ≠ '\n')).length + 1)

def Fault.ofStop (cs : List Char) (s : Reader.Stop) : Fault :=
  let offset := cs.length - s.left
  let (line, column) := place (cs.take offset)
  ⟨s.complaint, offset, line, column⟩

/-- A number of too many digits is complained of without a place. -/
def Fault.message (f : Fault) : String :=
  match f.complaint with
  | .longInteger _ => f.complaint.message
  | c =>
    c.message ++ ": line " ++ toString f.line ++ " column " ++ toString f.column ++
      " (char " ++ toString f.offset ++ ")"

/-- A whole number beyond the limit is no fault of the document's form. -/
def Fault.isForm (f : Fault) : Bool :=
  match f.complaint with
  | .longInteger _ => false
  | _ => true

def parse (cs : List Char) : Except Fault Json :=
  (Reader.document cs).mapError (Fault.ofStop cs)

def read (s : String) : Except Fault Json := parse s.toList

end UmlPress.Json
