import UmlPress.Console.Action
import UmlPress.Console.Style

/-!
# Marked-up texts

A tag is a name in brackets that starts with a small letter or one of a few
signs. A backslash in front of a tag makes it plain text, and two stand for
one. Tags do not show; a closing tag needs an open one of the same style.
-/
namespace UmlPress.Console

inductive MarkupFault where
  | unopened (tag : List Char) (position : Nat)
  | nothingOpen (position : Nat)
  /-- A tag that says what its action is in a way that cannot be read. -/
  | action (arguments said : List Char) (fault : ActionFault)
  | number (bad : Style.BadNumber)
  deriving Repr, DecidableEq

def MarkupFault.message : MarkupFault → String
  | .unopened tag position =>
    s!"closing tag '[{String.ofList tag}]' at position {position} doesn't match any open tag"
  | .nothingOpen position =>
    s!"closing tag '[/]' at position {position} has nothing to close"
  | .action arguments said fault =>
    s!"error parsing {String.ofList (Text.quoted arguments)} in " ++
      s!"{String.ofList (Text.quoted said)}; {fault.message}"
  | .number bad => bad.message

namespace Markup

def opensTag (c : Char) : Bool := Text.within [(97, 122)] c || c = '#' || c = '/' || c = '@'

/-- The name of a tag that starts behind this bracket, and what follows it. -/
def tagName? (s : List Char) : Option (List Char × List Char) :=
  match s with
  | c :: _ =>
    if opensTag c then
      let name := s.takeWhile fun c => c ≠ ']' && c ≠ '['
      match s.dropWhile fun c => c ≠ ']' && c ≠ '[' with
      | ']' :: r => some (name, r)
      | _ => none
    else none
  | [] => none

/-- The backslashes in front of a tag, the tag's name and what follows it. -/
def tag? (s : List Char) : Option (Nat × List Char × List Char) :=
  match s.dropWhile (· = '\\') with
  | '[' :: r => (tagName? r).map fun (name, rest) => ((s.takeWhile (· = '\\')).length, name, rest)
  | _ => none

inductive Piece where
  | plain (s : List Char)
  | tag (position : Nat) (name : List Char)
  deriving Repr, DecidableEq

def plain (s : List Char) : List Piece := if s = [] then [] else [.plain s]

/-- Pieces of a text. `before` holds the plain characters since the last piece,
the last one first; fuel is the length of the text. -/
def piecesFrom : Nat → Nat → List Char → List Char → List Piece
  | 0, _, before, _ => plain before.reverse
  | _ + 1, _, before, [] => plain before.reverse
  | n + 1, position, before, c :: r =>
    match tag? (c :: r) with
    | none => piecesFrom n (position + 1) (c :: before) r
    | some (slashes, name, rest) =>
      let behind := position + slashes + name.length + 2
      let kept := List.replicate (slashes / 2) '\\'
      let here :=
        if slashes % 2 = 1 then .plain ('[' :: name ++ [']'])
        else .tag (position + 2 * (slashes / 2)) name
      plain before.reverse ++ plain kept ++ here :: piecesFrom n behind [] rest

def pieces (s : List Char) : List Piece := piecesFrom (s.length + 1) 0 [] s

/-- A bracket that opens no tag may have a backslash in front of it. -/
def unescaped : List Char → List Char
  | [] => []
  | '\\' :: '[' :: r => '[' :: unescaped r
  | c :: r => c :: unescaped r

/-- Characters that would move the cursor do not show. -/
def shows (c : Char) : Bool := !Text.within [(7, 8), (11, 13)] c

/-- The name of a tag without its parameters. -/
def bare (name : List Char) : List Char := name.takeWhile (· ≠ '=')

/-- The parameters of a tag, if it has any. -/
def parameters? (name : List Char) : Option (List Char) :=
  match name.dropWhile (· ≠ '=') with
  | [] => none
  | _ :: r => some r

/-- A tag that is still open: its style in normal form and its parameters. -/
structure Opened where
  style : List Char
  parameters : Option (List Char)
  deriving Repr, DecidableEq

namespace Opened

/-- Whether the tag stands for an action. -/
def acts (o : Opened) : Bool := o.style.head? = some '@'

/-- What the tag says about its action has to be readable when it is closed. -/
def close (o : Opened) : Except MarkupFault Unit :=
  match o.parameters with
  | some (c :: r) =>
    if o.acts then
      let said := Text.trim (c :: r)
      (Action.check said).mapError (.action (Action.arguments said) (c :: r))
    else .ok ()
  | _ => .ok ()

def ofName (name : List Char) : Except MarkupFault Opened := do
  let style ← (Style.normal (bare name)).mapError .number
  return ⟨style, parameters? name⟩

end Opened

/-- The visible text of the pieces, given the tags that are open. -/
def visible (opened : List Opened) : List Piece → Except MarkupFault (List Char)
  | [] => .ok []
  | .plain s :: r => do return (unescaped s).filter shows ++ (← visible opened r)
  | .tag position name :: r =>
    match bare name with
    | '/' :: style =>
      match Text.trim style with
      | [] =>
        match opened with
        | [] => .error (.nothingOpen position)
        | o :: others => do
          o.close
          visible others r
      | style => do
        let style ← (Style.normal style).mapError .number
        match opened.find? (·.style = style) with
        | some o =>
          o.close
          visible (opened.erase o) r
        | none => throw (.unopened name position)
    | _ => do visible ((← Opened.ofName name) :: opened) r

/-- The parameters of tags are read as parts of their styles. -/
def checkStyles : List Piece → Except MarkupFault Unit
  | [] => .ok ()
  | .plain _ :: r => checkStyles r
  | .tag _ name :: r => do
    match name.head?, parameters? name with
    | some '/', _ => pure ()
    | some '@', _ => pure ()
    | _, some more =>
      let o ← Opened.ofName name
      (Style.check (o.style ++ ' ' :: more)).mapError .number
    | _, none => pure ()
    checkStyles r

end Markup

/-- The visible text of a marked-up text. -/
def unmarked (s : List Char) : Except MarkupFault (List Char) :=
  if s.contains '[' then do
    let pieces := Markup.pieces s
    let shown ← Markup.visible [] pieces
    Markup.checkStyles pieces
    return shown
  else .ok (s.filter Markup.shows)

end UmlPress.Console
