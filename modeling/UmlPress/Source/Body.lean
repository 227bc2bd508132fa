import UmlPress.Json.Reader
import UmlPress.Text.CodePage
import UmlPress.Text.Garble
import UmlPress.Text.Utf8

/-!
# Bodies of replies

A reply does not say how its bytes stand for characters. A mark at the front
decides, else the number and places of the null bytes among the first four.
A body of three bytes or fewer, or one that does not decode, is read in the way
that makes it look least garbled.
-/
namespace UmlPress.Source

inductive Encoding where
  | utf8
  | utf8Marked
  | utf16
  | utf16Low
  | utf16High
  | utf32
  | utf32Low
  | utf32High
  deriving Repr, DecidableEq

def hasMark32 (s : List UInt8) : Bool := s = [0xff, 0xfe, 0, 0] || s = [0, 0, 0xfe, 0xff]

def hasMark16 (s : List UInt8) : Bool := s.take 2 = [0xff, 0xfe] || s.take 2 = [0xfe, 0xff]

/-- The encoding that the first four bytes speak for, if any. -/
def guess? (body : List UInt8) : Option Encoding :=
  let s := body.take 4
  if hasMark32 s then some .utf32
  else if s.take 3 = [0xef, 0xbb, 0xbf] then some .utf8Marked
  else if hasMark16 s then some .utf16
  else match s.map (· == 0) with
    | [true, false, true, false] => some .utf16High
    | [false, true, false, true] => some .utf16Low
    | [true, true, true, false] => some .utf32High
    | [false, true, true, true] => some .utf32Low
    | zeros => if zeros.count true = 0 then some .utf8 else none

def decodeAs (e : Encoding) (body : List UInt8) : Option (List Char) :=
  match e with
  | .utf8 => (Text.Utf8.decode body).toOption
  | .utf8Marked => (Text.Utf8.decode (body.drop 3)).toOption
  | .utf16Low => Text.Wide.decode16 body
  | .utf16High => Text.Wide.decode16 (Text.Wide.swap16 body)
  | .utf32Low => Text.Wide.decode32 body
  | .utf32High => Text.Wide.decode32 (Text.Wide.swap32 body)
  | .utf16 =>
    let text := body.drop 2
    Text.Wide.decode16 (if body.head? = some 0xff then text else Text.Wide.swap16 text)
  | .utf32 =>
    let text := body.drop 4
    Text.Wide.decode32 (if body.head? = some 0xff then text else Text.Wide.swap32 text)

/-- One way to read a body, and how garbled it looks. -/
structure Reading where
  text : List Char
  garble : Nat

namespace Reading

def ofText (text : List Char) : Reading := ⟨text, Text.garble text⟩

/-- Of two readings the less garbled one is better, and of two that are garbled
alike the shorter one. -/
def isBetter (a b : Reading) : Bool :=
  if a.garble < b.garble + 5 && b.garble < a.garble + 5 then a.text.length < b.text.length
  else a.garble < b.garble

def best? (rs : List Reading) : Option Reading :=
  (rs.filter (·.garble < Text.garbled)).foldl (fun kept r =>
    match kept with
    | none => some r
    | some k => if r.isBetter k then some r else some k) none

/-- Readings by pages and in wider units. -/
def guesses (body : List UInt8) : List Reading :=
  ([Text.urduPage, Text.ukrainianPage, Text.centralPage].filterMap (·.decode body) ++
    [Encoding.utf16High, .utf16Low, .utf32High, .utf32Low].filterMap (decodeAs · body)).map ofText

end Reading

/-- What is left behind the mark of a body that the mark speaks true for. -/
def marked? (body : List UInt8) : Option (List Char) :=
  if body.take 3 = [0xef, 0xbb, 0xbf] then decodeAs .utf8Marked body
  else if hasMark16 body then decodeAs .utf16 body
  else none

/-- The reading of a body that does not say what it is. UTF-8 is taken if it is
hardly garbled, and also if nothing else can be read. -/
def fallback (body : List UInt8) : List Char :=
  match marked? body with
  | some text => text
  | none =>
    let plain := (decodeAs .utf8 body).map Reading.ofText
    if plain.any (·.garble < 100) then Text.Utf8.lenient body
    else match Reading.best? (plain.toList ++ Reading.guesses body) with
      | some r => r.text
      | none => Text.Utf8.lenient body

def bodyText (body : List UInt8) : List Char :=
  let guessed := if body.length ≤ 3 then none
    else (guess? body).bind fun e => decodeAs e body
  Text.hold (guessed.getD (fallback body))

end UmlPress.Source
