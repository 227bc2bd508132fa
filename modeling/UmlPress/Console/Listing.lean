import UmlPress.Text.Blank
import UmlPress.Text.Word

/-!
# Listings

A listing is cut into stretches by what it is a listing of: comments, pieces of
quoted texts and words are stretches, and any other character is one of its own.
How wide a listing is shown depends on its stretches, each of which is measured
by itself.
-/
namespace UmlPress.Console.Listing

/-- Where in a listing a stretch stands. Inside quotes, a long text has three of
them on either side and may go on over line ends. -/
inductive Place where
  | code
  | className
  | imports
  | quoted (quote : Char) (long : Bool)
  deriving Repr, DecidableEq

structure Stretch where
  text : List Char
  rest : List Char
  /-- The places that the rest stands in, the innermost first. -/
  places : List Place

def isLetter (c : Char) : Bool := Text.within [(65, 90), (97, 122)] c || c = '_' || c = '$'

def isWordChar (c : Char) : Bool := Text.isWord c || c = '_'

def isDigit (c : Char) : Bool := (Text.digitValue? c).isSome

/-- What stands up to the end of the first occurrence of a text, and what follows. -/
def through? (mark : List Char) : List Char → Option (List Char × List Char)
  | [] => if mark.isEmpty then some ([], []) else none
  | c :: r =>
    if mark.isPrefixOf (c :: r) then some (mark, (c :: r).drop mark.length)
    else (through? mark r).map fun (s, rest) => (c :: s, rest)

/-- A word that starts here. -/
def word? : List Char → Option (List Char × List Char)
  | c :: r =>
    if isLetter c then some (c :: r.takeWhile isWordChar, r.dropWhile isWordChar) else none
  | [] => none

/-- What is left of a text behind a mark. -/
def after? (mark : String) (s : List Char) : Option (List Char) :=
  if mark.toList.isPrefixOf s then some (s.drop mark.length) else none

/-- A text that closes with a mark, after one that opens it. -/
def enclosed? (opening closing : String) (s : List Char) : Option (List Char × List Char) :=
  (after? opening s).bind fun r =>
    (through? closing.toList r).map fun (inside, rest) => (opening.toList ++ inside, rest)

/-- The opening quotes of a text, whether they are long, and what follows. -/
def quotes? : List Char → Option (Char × Bool × List Char)
  | c :: r =>
    if c = '\x22' ∨ c = '\'' then
      match r with
      | d :: e :: r' => if d = c ∧ e = c then some (c, true, r') else some (c, false, r)
      | _ => some (c, false, r)
    else none
  | [] => none

/-- A text in quotes that is taken as it stands, or the quotes that open one. -/
def quoted? (places : List Place) (s : List Char) : Option Stretch :=
  let raw := enclosed? "r\x22\x22\x22" "\x22\x22\x22" s <|> enclosed? "r'''" "'''" s <|>
    enclosed? "r\x22" "\x22" s <|> enclosed? "r'" "'" s
  match raw with
  | some (text, rest) => some ⟨text, rest, places⟩
  | none => (quotes? s).map fun (c, long, rest) =>
    ⟨s.take (if long then 3 else 1), rest, .quoted c long :: places⟩

def digits (s : List Char) : List Char × List Char := (s.takeWhile isDigit, s.dropWhile isDigit)

def isHex (c : Char) : Bool := Text.within [(48, 57), (65, 70), (97, 102)] c

/-- The exponent of a number, if it has one. -/
def exponent (s : List Char) : List Char × List Char :=
  match s with
  | e :: r =>
    if e = 'e' ∨ e = 'E' then
      let (sign, r) := match r with
        | '+' :: r => (['+'], r)
        | '-' :: r => (['-'], r)
        | r => ([], r)
      match digits r with
      | ([], _) => ([], s)
      | (ds, rest) => (e :: sign ++ ds, rest)
    else ([], s)
  | [] => ([], s)

def number? (s : List Char) : Option (List Char × List Char) :=
  match s with
  | '0' :: x :: r =>
    if (x = 'x' ∨ x = 'X') ∧ r.head?.any isHex then
      some ('0' :: x :: r.takeWhile isHex, r.dropWhile isHex)
    else decimal? s
  | s => decimal? s
where
  decimal? (s : List Char) : Option (List Char × List Char) :=
    match digits s with
    | ([], _) => none
    | (whole, '.' :: r) =>
      let (part, r) := digits r
      let (power, rest) := exponent r
      some (whole ++ '.' :: part ++ power, rest)
    | (whole, r) =>
      let (power, rest) := exponent r
      some (whole ++ power, rest)

/-- A comment that starts here. One that goes to the end of the line takes the
line end with it. -/
def comment? (s : List Char) : Option (List Char × List Char) :=
  match after? "#!" s with
  | some _ => some (s.takeWhile (· ≠ '\n'), s.dropWhile (· ≠ '\n'))
  | none => enclosed? "//" "\n" s <|> enclosed? "/*" "*/" s

/-- The word that stands here as a whole, with the one before not going on in it. -/
def wordAlone? (before : Option Char) (s : List Char) : Option (String × List Char × List Char) :=
  if before.any isWordChar then none
  else (word? s).map fun (w, rest) => (.ofList w, w, rest)

def codeStretch (places : List Place) (before : Option Char) (c : Char) (r : List Char) : Stretch :=
  let s := c :: r
  match quoted? places s with
  | some t => t
  | none =>
    match comment? s with
    | some (text, rest) => ⟨text, rest, places⟩
    | none =>
      match wordAlone? before s with
      | some ("import", w, rest) => ⟨w, rest, .imports :: places⟩
      | some ("export", w, rest) => ⟨w, rest, .imports :: places⟩
      | some (name, w, rest) =>
        if name ∈ ["class", "extension", "mixin"] ∧ rest.head?.any Text.isBlank then
          ⟨w ++ rest.takeWhile Text.isBlank, rest.dropWhile Text.isBlank, .className :: places⟩
        else ⟨w, rest, places⟩
      | none =>
        match word? s <|> number? s with
        | some (text, rest) => ⟨text, rest, places⟩
        | none => ⟨[c], r, places⟩

/-- A stretch that no rule of a place covers. A line end leads back to the code. -/
def single (places : List Place) (c : Char) (r : List Char) : Stretch :=
  ⟨[c], r, if c = '\n' then [.code] else places⟩

/-- An escape inside quotes. -/
def escape? : List Char → Option (List Char × List Char)
  | '\\' :: 'x' :: a :: b :: r =>
    if isHex a && isHex b then some (['\\', 'x', a, b], r) else some (['\\', 'x'], a :: b :: r)
  | '\\' :: 'u' :: r =>
    let four := r.take 4
    let braced := match r with
      | '{' :: r' =>
        match r'.dropWhile isHex with
        | '}' :: rest => some ('\\' :: 'u' :: '{' :: r'.takeWhile isHex ++ ['}'], rest)
        | _ => none
      | _ => none
    if four.length = 4 ∧ four.all isHex then some ('\\' :: 'u' :: four, r.drop 4)
    else some (braced.getD (['\\', 'u'], r))
  | '\\' :: c :: r =>
    if Text.within [(97, 122)] c || c = '\'' || c = '\x22' || c = '$' || c = '\\' then
      some (['\\', c], r)
    else none
  | _ => none

/-- A name or an expression that is put into a quoted text. The expression may be
cut further. -/
def inserted? : List Char → Option (List Char × Option (List Char) × List Char)
  | '$' :: '{' :: r =>
    (through? ['}'] r).map fun (inside, rest) => (['$', '{'], some inside.dropLast, rest)
  | '$' :: r =>
    match word? r with
    | some ('$' :: _, _) => none
    | some (w, rest) => some ('$' :: w, none, rest)
    | none => none
  | _ => none

/-- The stretches of a listing, given the places that it starts in and the
character before it. Fuel is at least the length of the listing. -/
def stretches : Nat → List Place → Option Char → List Char → List (List Char)
  | 0, _, _, _ => []
  | _, _, _, [] => []
  | n + 1, places, before, c :: r =>
    let go (t : Stretch) : List (List Char) :=
      t.text :: stretches n t.places t.text.getLast? t.rest
    match places with
    | .className :: outer =>
      match word? (c :: r) with
      | some (w, rest) => go ⟨w, rest, outer⟩
      | none => go (single places c r)
    | .imports :: outer =>
      match quoted? places (c :: r) with
      | some t => go t
      | none =>
        match word? (c :: r) with
        | some (w, rest) => go ⟨w, rest, places⟩
        | none => if c = ';' then go ⟨[c], r, outer⟩ else go (single places c r)
    | .quoted quote long :: outer =>
      let mark := List.replicate (if long then 3 else 1) quote
      let inside (d : Char) : Bool := d ≠ quote && d ≠ '$' && d ≠ '\\' && (long || d ≠ '\n')
      if mark.isPrefixOf (c :: r) then go ⟨mark, (c :: r).drop mark.length, outer⟩
      else if inside c then go ⟨(c :: r).takeWhile inside, (c :: r).dropWhile inside, places⟩
      else match escape? (c :: r), inserted? (c :: r) with
        | some (text, rest), _ => go ⟨text, rest, places⟩
        | none, some (text, none, rest) => go ⟨text, rest, places⟩
        | none, some (text, some expression, rest) =>
          text :: stretches n [.code] none expression ++ ['}'] :: stretches n places (some '}') rest
        | none, none =>
          let run (d : Char) : Bool := d = '$' || (long && d = quote)
          if run c then go ⟨(c :: r).takeWhile run, (c :: r).dropWhile run, places⟩
          else go (single places c r)
    | _ => go (codeStretch places before c r)

def cut (listing : List Char) : List (List Char) :=
  stretches listing.length [.code] none listing

end UmlPress.Console.Listing
