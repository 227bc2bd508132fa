import UmlPress.Text.Blank
import UmlPress.Text.Case
import UmlPress.Text.Word

/-!
# Names of styles

A style is named by attributes and colours in any order. Two names of one style
have the same normal form; a name that makes no sense is kept in lower case.
-/
namespace UmlPress.Console.Style

/-- Attributes by their names, in the order of the normal form. -/
def attributes : List (String × List String) :=
  [("bold", ["bold", "b"]), ("dim", ["dim", "d"]), ("italic", ["italic", "i"]),
   ("underline", ["underline", "u"]), ("blink", ["blink"]), ("blink2", ["blink2"]),
   ("reverse", ["reverse", "r"]), ("conceal", ["conceal", "c"]), ("strike", ["strike", "s"]),
   ("underline2", ["underline2", "uu"]), ("frame", ["frame"]), ("encircle", ["encircle"]),
   ("overline", ["overline", "o"])]

def attribute? (word : String) : Option String :=
  (attributes.find? fun a => a.2.contains word).map (·.1)

def shades : List String :=
  ["0", "3", "7", "11", "15", "19", "23", "27", "30", "35", "37", "39", "42", "46", "50", "53",
   "54", "58", "62", "63", "66", "69", "70", "74", "78", "82", "84", "85", "89", "93", "100"]

def named : List String :=
  ["default", "black", "red", "green", "yellow", "blue", "magenta", "cyan", "white",
   "bright_black", "bright_red", "bright_green", "bright_yellow", "bright_blue",
   "bright_magenta", "bright_cyan", "bright_white", "navy_blue", "dark_blue", "blue3", "blue1",
   "dark_green", "deep_sky_blue4", "dodger_blue3", "dodger_blue2", "green4", "spring_green4",
   "turquoise4", "deep_sky_blue3", "dodger_blue1", "green3", "spring_green3", "dark_cyan",
   "light_sea_green", "deep_sky_blue2", "deep_sky_blue1", "spring_green2", "cyan3",
   "dark_turquoise", "turquoise2", "green1", "spring_green1", "medium_spring_green", "cyan2",
   "cyan1", "dark_red", "deep_pink4", "purple4", "purple3", "blue_violet", "orange4",
   "medium_purple4", "slate_blue3", "royal_blue1", "chartreuse4", "dark_sea_green4",
   "pale_turquoise4", "steel_blue", "steel_blue3", "cornflower_blue", "chartreuse3",
   "cadet_blue", "sky_blue3", "steel_blue1", "pale_green3", "sea_green3", "aquamarine3",
   "medium_turquoise", "chartreuse2", "sea_green2", "sea_green1", "aquamarine1",
   "dark_slate_gray2", "dark_magenta", "dark_violet", "purple", "light_pink4", "plum4",
   "medium_purple3", "slate_blue1", "yellow4", "wheat4", "light_slate_grey",
   "light_slate_gray", "medium_purple", "light_slate_blue", "dark_olive_green3",
   "dark_sea_green", "light_sky_blue3", "sky_blue2", "dark_sea_green3", "dark_slate_gray3",
   "sky_blue1", "chartreuse1", "light_green", "pale_green1", "dark_slate_gray1", "red3",
   "medium_violet_red", "magenta3", "dark_orange3", "indian_red", "hot_pink3",
   "medium_orchid3", "medium_orchid", "medium_purple2", "dark_goldenrod", "light_salmon3",
   "rosy_brown", "medium_purple1", "gold3", "dark_khaki", "navajo_white3",
   "light_steel_blue3", "light_steel_blue", "yellow3", "dark_sea_green2", "light_cyan3",
   "light_sky_blue1", "green_yellow", "dark_olive_green2", "dark_sea_green1",
   "pale_turquoise1", "deep_pink3", "magenta2", "hot_pink2", "orchid", "medium_orchid1",
   "orange3", "light_pink3", "pink3", "plum3", "violet", "light_goldenrod3", "tan",
   "misty_rose3", "thistle3", "plum2", "khaki3", "light_goldenrod2", "light_yellow3",
   "light_steel_blue1", "yellow2", "dark_olive_green1", "honeydew2", "light_cyan1", "red1",
   "deep_pink2", "deep_pink1", "magenta1", "orange_red1", "indian_red1", "hot_pink",
   "dark_orange", "salmon1", "light_coral", "pale_violet_red1", "orchid2", "orchid1",
   "orange1", "sandy_brown", "light_salmon1", "light_pink1", "pink1", "plum1", "gold1",
   "light_goldenrod1", "navajo_white1", "misty_rose1", "thistle1", "yellow1", "khaki1",
   "wheat1", "cornsilk1"]

def isHex (c : Char) : Bool := Text.within [(48, 57), (97, 102)] c

/-- A part of a colour that is no number that can be read. -/
inductive BadNumber where
  | empty
  | tooLong (digits : Nat)
  deriving Repr, DecidableEq

/-- The most digits that a number may have. -/
def longest : Nat := 4300

def BadNumber.message : BadNumber → String
  | .empty => "invalid literal for int() with base 10: ''"
  | .tooLong digits =>
    s!"Exceeds the limit ({longest} digits) for integer string conversion: value has " ++
      s!"{digits} digits; use sys.set_int_max_str_digits() to increase the limit"

/-- The number that decimal digits of any script stand for. -/
def number (digits : List Char) : Except BadNumber Nat :=
  if digits = [] then .error .empty
  else if longest < digits.length then .error (.tooLong digits.length)
  else .ok (digits.foldl (fun n c => 10 * n + (Text.digitValue? c).getD 0) 0)

def between (opening : String) (word : List Char) : Option (List Char) :=
  if opening.toList.isPrefixOf word && word.getLast? = some ')' then
    some (word.drop opening.length).dropLast
  else none

/-- Whether a word is the number of a colour. -/
def isNumbered (word : List Char) : Bool :=
  match between "color(" word with
  | some n => !n.isEmpty && n.length ≤ 3 && n.all Char.isDigit && (number n).toOption.any (· < 256)
  | none => false

/-- Whether a word is made of the shares of three colours. Numbers between the
commas have to be there, in whatever order they stand. -/
def isMixed (word : List Char) : Except BadNumber Bool :=
  match between "rgb(" word with
  | none => .ok false
  | some shares =>
    if shares.isEmpty || !(shares.all fun c => c = ',' || (Text.digitValue? c).isSome) then
      .ok false
    else match ((String.ofList shares).splitOn ",").map String.toList with
      | [red, green, blue] => do
        let parts ← [red, green, blue].mapM number
        return parts.all (· < 256)
      | _ => .ok false

def isColour (word : String) : Except BadNumber Bool :=
  let cs := word.toList
  if named.contains word || shades.any (fun n => word = "grey" ++ n || word = "gray" ++ n) ||
      isNumbered cs then .ok true
  else match cs with
    | '#' :: digits => .ok (digits.length = 6 && digits.all isHex)
    | cs => isMixed cs

/-- A style as far as it has been read. -/
structure Reading where
  set : List (String × Bool) := []
  colour : Option String := none
  ground : Option String := none
  link : Option String := none

def Reading.withAttribute (r : Reading) (name : String) (on : Bool) : Reading :=
  { r with set := (name, on) :: r.set.filter (·.1 ≠ name) }

/-- Reads the words of a style, unless they make no sense. -/
def read (r : Reading) : List String → Except BadNumber (Option Reading)
  | [] => .ok (some r)
  | word :: rest =>
    let word := String.ofList (Text.lower word.toList)
    if word = "on" then
      match rest with
      | c :: rest => do
        let c := String.ofList (Text.lower c.toList)
        if ← isColour c then read { r with ground := some c } rest else return none
      | [] => .ok none
    else if word = "not" then
      match rest with
      | a :: rest =>
        match attribute? a with
        | some name => read (r.withAttribute name false) rest
        | none => .ok none
      | [] => .ok none
    else if word = "link" then
      match rest with
      | url :: rest => read { r with link := some url } rest
      | [] => .ok none
    else match attribute? word with
      | some name => read (r.withAttribute name true) rest
      | none => do
        if ← isColour word then read { r with colour := some word } rest else return none

def Reading.text (r : Reading) : String :=
  let shown (name : String) : Option String :=
    (r.set.lookup name).map fun on => if on then name else "not " ++ name
  let words := attributes.filterMap (fun a => shown a.1) ++ r.colour.toList ++
    (r.ground.map ("on " ++ ·)).toList ++ (r.link.map ("link " ++ ·)).toList
  if words.isEmpty then "none" else " ".intercalate words

/-- The words of a text between white space. -/
def words (s : List Char) : List String :=
  let step (c : Char) (acc : List (List Char)) : List (List Char) :=
    if Text.isBlank c then [] :: acc else Text.consLine c acc
  ((s.foldr step [[]]).filter (· ≠ [])).map .ofList

def normal (name : List Char) : Except BadNumber (List Char) :=
  let trimmed := Text.trim name
  if trimmed = "none".toList then .ok trimmed
  else (read {} (words name)).map fun
    | some r => r.text.toList
    | none => Text.lower trimmed

/-- Whether a style can be read at all, in whatever sense. -/
def check (name : List Char) : Except BadNumber Unit := (read {} (words name)).map fun _ => ()

end UmlPress.Console.Style
