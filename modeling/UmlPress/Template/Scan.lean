import UmlPress.Json.Reader
import UmlPress.Template.Token
import UmlPress.Text.Blank
import UmlPress.Text.Named
import UmlPress.Text.Word

/-!
# From text to tokens

Outside tags a template is kept as it is, apart from white space that a tag
takes away: a minus sign takes all of it on its side, and a block or a comment
also takes the blanks between itself and the line's start, and a line end right
behind it. A plus sign keeps what is there. Inside tags white space separates
tokens, and a tag ends only where every bracket has been closed.
-/
namespace UmlPress.Template.Scan

def spaces (cs : List Char) : List Char := cs.dropWhile Text.isBlank

/-- The characters between two points of a text. -/
def passed (cs rest : List Char) : List Char := cs.take (cs.length - rest.length)

def linesIn (cs rest : List Char) : Nat := (passed cs rest).count '\n'

def endsLine (cs rest : List Char) : Bool := (passed cs rest).getLast? = some '\n'

/-! Ends of tags: what is left after one that stands here. -/

def blockClose? : List Char → Option (List Char)
  | '+' :: '%' :: '}' :: r => some r
  | '-' :: '%' :: '}' :: r => some (spaces r)
  | '%' :: '}' :: '\n' :: r => some r
  | '%' :: '}' :: r => some r
  | _ => none

def printClose? : List Char → Option (List Char)
  | '-' :: '}' :: '}' :: r => some (spaces r)
  | '}' :: '}' :: r => some r
  | _ => none

def commentClose? : List Char → Option (List Char)
  | '+' :: '#' :: '}' :: r => some r
  | '-' :: '#' :: '}' :: r => some (spaces r)
  | '#' :: '}' :: '\n' :: r => some r
  | '#' :: '}' :: r => some r
  | _ => none

/-! Openings of tags. -/

/-- A sign for white space at the front of a tag. -/
def signed : List Char → Option Char × List Char
  | '-' :: r => (some '-', r)
  | '+' :: r => (some '+', r)
  | r => (none, r)

/-- What follows a word that stands here. -/
def afterWord? (word : List Char) (cs : List Char) : Option (List Char) :=
  if word.isPrefixOf cs then some (cs.drop word.length) else none

def plainClose? : List Char → Option (List Char)
  | '-' :: '%' :: '}' :: r => some (spaces r)
  | '%' :: '}' :: r => some r
  | _ => none

/-- The rest of a tag that opens a text to be kept as it is. -/
def rawOpen? (cs : List Char) : Option (Option Char × List Char) :=
  let (sign, r) := signed cs
  match afterWord? "raw".toList (spaces r) with
  | some r => (plainClose? (spaces r)).map (sign, ·)
  | none => none

def rawClose? : List Char → Option (Option Char × List Char)
  | '{' :: '%' :: r =>
    let (sign, r) := signed r
    match afterWord? "endraw".toList (spaces r) with
    | some r => (blockClose? (spaces r)).map (sign, ·)
    | none => none
  | _ => none

inductive Opening where
  | print
  | block
  | comment
  | raw
  deriving DecidableEq

structure Opened where
  opening : Opening
  sign : Option Char
  rest : List Char

def opened (opening : Opening) (cs : List Char) : Opened :=
  let (sign, rest) := signed cs
  ⟨opening, sign, rest⟩

def openingAt? : List Char → Option Opened
  | '{' :: '{' :: r => some (opened .print r)
  | '{' :: '#' :: r => some (opened .comment r)
  | '{' :: '%' :: r =>
    match rawOpen? r with
    | some (sign, rest) => some ⟨.raw, sign, rest⟩
    | none => some (opened .block r)
  | _ => none

/-- The first place at which something is found, and the text before it. -/
def search {α : Type} (find? : List Char → Option α) : List Char → List Char × Option α
  | [] => ([], none)
  | c :: r =>
    match find? (c :: r) with
    | some a => ([], some a)
    | none =>
      let (before, found) := search find? r
      (c :: before, found)

/-- A text before a tag without the white space that the tag takes away. The
tag may stand at the start of a line without one being in the text. -/
def beforeTag (atLineStart takesBlanks : Bool) (sign : Option Char) (text : List Char) :
    List Char :=
  match sign with
  | some '-' => Text.trimEnd text
  | some _ => text
  | none =>
    let tail := (text.reverse.takeWhile (· ≠ '\n')).length
    if takesBlanks && (tail < text.length || atLineStart) &&
        (text.drop (text.length - tail)).all Text.isBlank then
      text.take (text.length - tail)
    else text

/-! Tokens inside tags. -/

def isDigit (c : Char) : Bool := (Text.digitValue? c).isSome

/-- Digits of a kind, single underscores being allowed between them. -/
def digitRun (ok : Char → Bool) : List Char → List Char × List Char
  | c :: '_' :: d :: r =>
    if ok c && ok d then
      let (ds, rest) := digitRun ok (d :: r)
      (c :: ds, rest)
    else if ok c then ([c], '_' :: d :: r) else ([], c :: '_' :: d :: r)
  | c :: r =>
    if ok c then
      let (ds, rest) := digitRun ok r
      (c :: ds, rest)
    else ([], c :: r)
  | [] => ([], [])

def digit? (c : Char) : Option Nat := Text.digitValue? c <|> Json.Reader.hexValue? c

def value (base : Nat) (digits : List Char) : Nat :=
  digits.foldl (fun n c => base * n + (digit? c).getD 0) 0

/-- The exponent of a number, if one stands here. -/
def exponent? : List Char → Option (Int × List Char)
  | 'e' :: r => some (0, r) >>= after
  | 'E' :: r => some (0, r) >>= after
  | _ => none
where
  after : Int × List Char → Option (Int × List Char)
    | (_, cs) =>
      let (negative, r) := match cs with
        | '-' :: r => (true, r)
        | '+' :: r => (false, r)
        | r => (false, r)
      let (ds, rest) := digitRun isDigit r
      if ds.isEmpty then none
      else some (if negative then -(value 10 ds : Int) else value 10 ds, rest)

def fraction? : List Char → Option (List Char × List Char)
  | '.' :: r =>
    let (ds, rest) := digitRun isDigit r
    if ds.isEmpty then none else some (ds, rest)
  | _ => none

/-- A number with a fraction or an exponent. -/
def real? (cs : List Char) : Option (Binary64 × List Char) :=
  let (whole, r) := digitRun isDigit cs
  if whole.isEmpty then none
  else
    let number (part : List Char) (e : Int) (rest : List Char) : Binary64 × List Char :=
      (.ofDecimal false (value 10 (whole ++ part)) (e - part.length), rest)
    match fraction? r with
    | some (part, rest) =>
      match exponent? rest with
      | some (e, rest) => some (number part e rest)
      | none => some (number part 0 rest)
    | none => (exponent? r).map fun (e, rest) => number [] e rest

/-- The digits after a mark of their base; one underscore may stand in front. -/
def based? (base : Nat) (ok : Char → Bool) (cs : List Char) : Option (Nat × List Char) :=
  let r := match cs with
    | '_' :: r => r
    | r => r
  let (ds, rest) := digitRun ok r
  if ds.isEmpty then none else some (value base ds, rest)

def isHex (c : Char) : Bool := (Json.Reader.hexValue? c).isSome

/-- A run of zeros, or digits that start with a plain one that is no zero. -/
def whole? : List Char → Option (Nat × List Char)
  | '0' :: r => some (0, (digitRun (· = '0') ('0' :: r)).2)
  | c :: r =>
    if Text.within [(49, 57)] c then
      let (ds, rest) := digitRun isDigit (c :: r)
      some (value 10 ds, rest)
    else none
  | [] => none

def int? (cs : List Char) : Option (Nat × List Char) :=
  let marked := match cs with
    | '0' :: m :: r =>
      if m = 'b' ∨ m = 'B' then based? 2 (Text.within [(48, 49)]) r
      else if m = 'o' ∨ m = 'O' then based? 8 (Text.within [(48, 55)]) r
      else if m = 'x' ∨ m = 'X' then based? 16 (fun c => (digit? c).isSome) r
      else none
    | _ => none
  match marked with
  | some found => some found
  | none => whole? cs

/-- The characters up to a closing quote; a backslash takes one more with it. -/
def quotedEnd? (quote : Char) : List Char → Option (List Char × List Char)
  | [] => none
  | '\\' :: c :: r => (quotedEnd? quote r).map fun (s, rest) => ('\\' :: c :: s, rest)
  | c :: r =>
    if c = quote then some ([], r)
    else if c = '\\' then none
    else (quotedEnd? quote r).map fun (s, rest) => (c :: s, rest)

def asciiForm (n : Nat) : List Char := if n < 128 then [Char.ofNat n] else Text.escapeNumber n

def simpleEscape? : Char → Option Char
  | '\\' => some '\\'
  | '\'' => some '\''
  | '\x22' => some '\x22'
  | 'a' => some '\x07'
  | 'b' => some '\x08'
  | 'f' => some '\x0c'
  | 'n' => some '\n'
  | 'r' => some '\r'
  | 't' => some '\t'
  | 'v' => some '\x0b'
  | _ => none

/-- Exactly so many hexadecimal digits. -/
def hexDigits? (count : Nat) (cs : List Char) : Option (Nat × List Char) :=
  let ds := cs.take count
  if ds.length = count ∧ ds.all isHex then some (value 16 ds, cs.drop count) else none

/-- The digits that an escape by number needs, by its letter. -/
def numbered? : Char → Option (Nat × String)
  | 'x' => some (2, "truncated \\xXX escape")
  | 'u' => some (4, "truncated \\uXXXX escape")
  | 'U' => some (8, "truncated \\UXXXXXXXX escape")
  | _ => none

/-- A name in braces, which is not empty. -/
def named? : List Char → Option (List Char × List Char)
  | '{' :: r =>
    match r.takeWhile (· ≠ '}'), r.dropWhile (· ≠ '}') with
    | [], _ => none
    | name, '}' :: rest => some (name, rest)
    | _, _ => none
  | _ => none

def unescape : Nat → List Char → Except SyntaxFault (List Char)
  | 0, _ => .ok []
  | _, [] => .ok []
  | n + 1, '\\' :: c :: r =>
    if c = '\n' then unescape n r
    else if let some d := simpleEscape? c then (unescape n r).map (d :: ·)
    else if let some (count, reason) := numbered? c then
      match hexDigits? count r with
      | none => .error (.badEscape reason)
      | some (v, rest) =>
        if 0x10ffff < v then .error (.badEscape "illegal Unicode character")
        else (unescape n rest).map (Text.held v ++ ·)
    else if c = 'N' then
      match named? r with
      | none => .error (.badEscape "malformed \\N character escape")
      | some (name, rest) =>
        match Text.named? name with
        | none => .error (.badEscape "unknown Unicode character name")
        | some d => (unescape n rest).map (d :: ·)
    else
      let octal := ((c :: r).take 3).takeWhile (Text.within [(48, 55)])
      if octal.isEmpty then (unescape n r).map fun s => '\\' :: c :: s
      else (unescape n ((c :: r).drop octal.length)).map (Char.ofNat (value 8 octal) :: ·)
  | n + 1, c :: r => (unescape n r).map (c :: ·)

def unescaped (s : List Char) : Except SyntaxFault (List Char) :=
  let plain := (Text.codes s).flatMap asciiForm
  unescape plain.length plain

/-- Signs, the longer ones first. -/
def signs : List (List Char) :=
  ["//", "**", "==", "!=", ">=", "<="].map String.toList ++
    "+-/*%~[](){}><=.:|,;".toList.map fun c => [c]

def sign? (cs : List Char) : Option (List Char) := signs.find? (·.isPrefixOf cs)

/-- The bracket that closes one. -/
def closing? : Char → Option Char
  | '{' => some '}'
  | '(' => some ')'
  | '[' => some ']'
  | _ => none

/-- The brackets that are still to be closed after a sign. -/
def balanced (opening : List Char) (sign : List Char) : Except SyntaxFault (List Char) :=
  match sign with
  | [c] =>
    match closing? c with
    | some d => .ok (d :: opening)
    | none =>
      if c = '}' ∨ c = ')' ∨ c = ']' then
        match opening with
        | [] => .error (.unbalanced c none)
        | d :: r => if c = d then .ok r else .error (.unbalanced c (some d))
      else .ok opening
  | _ => .ok opening

inductive State where
  | text (atLineStart : Bool)
  /-- Inside a tag, with the brackets still to be closed and the character
  before this place. -/
  | tag (prints : Bool) (opening : List Char) (before : Char)

def data (line : Nat) (text : List Char) : List Token :=
  if text.isEmpty then [] else [⟨line, .data (.ofList text)⟩]

/-- One token inside a tag: its kind, the open brackets after it and the rest.
White space is no token. -/
def inTag (total : Nat) (opening : List Char) (before : Char) (c : Char) (r : List Char) :
    Except SyntaxFault (Option Kind × List Char × List Char) :=
  let cs := c :: r
  if Text.isBlank c then .ok (none, opening, spaces cs)
  else if let some (x, rest) := if before = '.' then none else real? cs then
    let written := (passed cs rest).filter (· ≠ '_')
    if written.all (·.toNat < 128) then .ok (some (.real x), opening, rest)
    else .error (.badNumber (.ofList written))
  else if let some (n, rest) := int? cs then .ok (some (.int n), opening, rest)
  else if Text.isWord c then
    let word := cs.takeWhile Text.isWord
    if Text.isIdentifier word then
      .ok (some (.name (.ofList word)), opening, cs.drop word.length)
    else .error .badName
  else if let some (s, rest) := if c = '\'' ∨ c = '\x22' then quotedEnd? c r else none then do
    let s ← unescaped s
    return (some (.text (.ofList s)), opening, rest)
  else if let some sign := sign? cs then do
    let opening ← balanced opening sign
    return (some (.sign (.ofList sign)), opening, cs.drop sign.length)
  else .error (.unexpectedChar c (total - cs.length))

/-- The tokens of a text in at most so many steps. -/
def tokens (total : Nat) : Nat → State → Nat → List Char → List Token
  | 0, _, line, _ => [⟨line, .done⟩]
  | n + 1, .text atLineStart, line, cs =>
    match search openingAt? cs with
    | (before, none) => data line before ++ [⟨line, .done⟩]
    | (before, some ⟨opening, sign, rest⟩) =>
      let here := line + linesIn cs rest
      data line (beforeTag atLineStart (opening ≠ .print) sign before) ++
      match opening with
      | .print => ⟨here, .printBegin⟩ :: tokens total n (.tag true [] '{') here rest
      | .block => ⟨here, .blockBegin⟩ :: tokens total n (.tag false [] '%') here rest
      | .comment =>
        match search commentClose? rest with
        | (_, some after) =>
          tokens total n (.text (endsLine rest after)) (here + linesIn rest after) after
        | (_, none) =>
          if rest.isEmpty then [⟨here, .done⟩] else [⟨here, .bad .openComment⟩]
      | .raw =>
        match search rawClose? rest with
        | (text, some (sign, after)) =>
          data here (beforeTag (endsLine cs rest) true sign text) ++
            tokens total n (.text (endsLine rest after)) (here + linesIn rest after) after
        | (_, none) => if rest.isEmpty then [⟨here, .done⟩] else [⟨here, .bad .openRaw⟩]
  | _, .tag _ _ _, line, [] => [⟨line, .done⟩]
  | n + 1, .tag prints opening before, line, c :: r =>
    let close? := if !opening.isEmpty then none
      else if prints then printClose? (c :: r) else blockClose? (c :: r)
    match close? with
    | some rest =>
      ⟨line, if prints then .printEnd else .blockEnd⟩ ::
        tokens total n (.text (endsLine (c :: r) rest)) (line + linesIn (c :: r) rest) rest
    | none =>
      match inTag total opening before c r with
      | .error f => [⟨line, .bad f⟩]
      | .ok (kind?, opening, rest) =>
        let last := (passed (c :: r) rest).getLast?.getD c
        (match kind? with
          | some kind => [⟨line, kind⟩]
          | none => []) ++
          tokens total n (.tag prints opening last) (line + linesIn (c :: r) rest) rest

/-- A template's text with line feeds for all line ends and one fewer at the
end. -/
def source (s : String) : List Char :=
  let cs := Text.unifyLineEnds s.toList
  if cs.getLast? = some '\n' then cs.dropLast else cs

def scan (s : String) : List Token :=
  let cs := source s
  tokens cs.length (2 * cs.length + 2) (.text true) 1 cs

end UmlPress.Template.Scan
