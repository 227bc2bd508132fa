import UmlPress.Text.Quoted
import UmlPress.Text.Word

/-!
# Actions of tags

A tag whose name starts with a sign for an action may say what the action is:
the name of one, with arguments in parentheses or without, or arguments alone.
Arguments are values with commas between them.
-/
namespace UmlPress.Console

/-- Why the arguments of an action cannot be read. -/
inductive ActionFault where
  | invalid
  | noComma
  | unclosed (bracket : Char)
  | unmatched (bracket : Char)
  | mismatched (bracket opening : Char)
  | openText
  deriving Repr, DecidableEq

namespace ActionFault

def message : ActionFault → String
  | .invalid => "invalid syntax"
  | .noComma => "invalid syntax. Perhaps you forgot a comma?"
  | .unclosed c => s!"'{c}' was never closed"
  | .unmatched c => s!"unmatched '{c}'"
  | .mismatched c d => s!"closing parenthesis '{c}' does not match opening parenthesis '{d}'"
  | .openText => "unterminated string literal (detected at line 1)"

end ActionFault

namespace Action

/-- What stands in arguments. -/
inductive Mark where
  | value (quoted : Bool)
  | opening (c : Char)
  | closing (c : Char)
  | comma
  | other
  | openText
  deriving Repr, DecidableEq

/-- What follows the quote that closes a text. -/
def afterQuote? (quote : Char) : List Char → Option (List Char)
  | [] => none
  | '\\' :: _ :: r => afterQuote? quote r
  | c :: r => if c = quote then some r else afterQuote? quote r

def isValueChar (c : Char) : Bool := Text.isWord c || c = '_' || c = '.'

/-- The first mark of arguments and what follows it. -/
def mark (c : Char) (r : List Char) : Mark × List Char :=
  if c = '(' ∨ c = '[' ∨ c = '\x7b' then (.opening c, r)
  else if c = ')' ∨ c = ']' ∨ c = '\x7d' then (.closing c, r)
  else if c = ',' ∨ c = ':' then (.comma, r)
  else if c = '\'' ∨ c = '\x22' then
    match afterQuote? c r with
    | some rest => (.value true, rest)
    | none => (.openText, [])
  else if isValueChar c then (.value false, r.dropWhile isValueChar)
  else (.other, r)

/-- The marks of arguments; fuel is their length. -/
def marks : Nat → List Char → List Mark
  | 0, _ => []
  | _, [] => []
  | n + 1, c :: r =>
    if c = ' ' ∨ c = '\t' then marks n r
    else
      let (m, rest) := mark c r
      m :: marks n rest

def closes (c d : Char) : Bool :=
  (c = ')' && d = '(') || (c = ']' && d = '[') || (c = '\x7d' && d = '\x7b')

/-- Two values need a comma between them, unless both are texts. -/
def clash : Option Mark → Bool → Bool
  | some (.value before), quoted => !(before && quoted)
  | some (.closing _), _ => true
  | _, _ => false

/-- Goes through the marks with the brackets still open, the mark before, and
whether something outside brackets was wrong. -/
def examine (opened : List Char) (before : Option Mark) (wrong : Bool) :
    List Mark → Except ActionFault Unit
  | [] =>
    match opened with
    | c :: _ => .error (.unclosed c)
    | [] => if wrong then .error .invalid else .ok ()
  | m :: r =>
    match m with
    | .value quoted =>
      if clash before quoted then
        if opened.isEmpty then examine opened (some m) true r else .error .noComma
      else examine opened (some m) wrong r
    | .opening c => examine (c :: opened) (some m) wrong r
    | .closing c =>
      match opened with
      | [] => .error (.unmatched c)
      | d :: others =>
        if closes c d then examine others (some m) wrong r else .error (.mismatched c d)
    | .comma =>
      let out := match before with
        | some (.value _) => false
        | some (.closing _) => false
        | _ => true
      examine opened (some m) (wrong || out) r
    | .other => examine opened (some m) true r
    | .openText => .error .openText

/-- The arguments in what a tag says about its action. -/
def arguments (said : List Char) : List Char :=
  let rest := said.dropWhile isValueChar
  if rest = [] then "()".toList
  else if rest.head? = some '(' ∧ rest.getLast? = some ')' ∧ !rest.contains '\n' then rest
  else said

def check (said : List Char) : Except ActionFault Unit :=
  let args := arguments said
  examine [] none false (marks args.length args)

end Action
end UmlPress.Console
