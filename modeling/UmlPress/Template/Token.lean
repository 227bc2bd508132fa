import UmlPress.Binary64
import UmlPress.Text.Quoted

/-!
# Tokens of a template

A template is text with tags in it. The tokens of a text end with the end of
the template or with the reason why it cannot be read further.
-/
namespace UmlPress.Template

/-- Why a text is no template. -/
inductive SyntaxFault where
  | unexpectedChar (c : Char) (position : Nat)
  | unbalanced (found : Char) (wanted : Option Char)
  | openComment
  | openRaw
  | badName
  /-- A number with a fraction or an exponent, in digits that cannot be read. -/
  | badNumber (written : String)
  | badEscape (reason : String)
  | expected (wanted found : String)
  | endedBefore (wanted : String)
  | noExpression (found : String)
  | unexpected (found : String)
  | noTagName
  /-- A tag that is not known here; the tags that were looked for, innermost
  first, and the tag that is still open. -/
  | unknownTag (name : String) (wanted : List (List String)) (opened : Option String)
  | unclosed (wanted : List (List String)) (opened : Option String)
  | notAssignable (kind : String)
  | noMember
  | chainedTests
  | badCall
  | unknownFilter (name : String)
  | unknownTest (name : String)
  /-- Inside a loop its own state cannot be replaced. -/
  | loopAssigned
  deriving Repr, DecidableEq

def quote (s : String) : String := .ofList (Text.quoted s.toList)

namespace SyntaxFault

def looking (wanted : List String) : String := " or ".intercalate (wanted.map quote)

/-- The sentences about the tags that would have been right. -/
def advice (name : Option String) (wanted : List (List String)) (opened : Option String) :
    List String :=
  (match wanted with
    | [] => []
    | now :: _ =>
      if name.any (wanted.flatten.contains ·) then
        ["You probably made a nesting mistake. Jinja is expecting this tag, but currently " ++
          s!"looking for {looking now}."]
      else [s!"Jinja was looking for the following tags: {looking now}."]) ++
  (match opened with
    | some tag => [s!"The innermost block that needs to be closed is {quote tag}."]
    | none => [])

/-- Digits behind the letter of an exponent end the number, and the first one of
any others is no character of a number. -/
def numberMessage (written : String) : String :=
  let cs := written.toList
  match cs.find? (128 ≤ ·.toNat) with
  | none => "invalid decimal literal (<unknown>, line 1)"
  | some c =>
    let before := cs.takeWhile (·.toNat < 128)
    if before.getLast?.any ("eE+-".toList.contains ·) then
      "invalid decimal literal (<unknown>, line 1)"
    else
      s!"invalid character '{c}' (U+{String.ofList ((Text.hex 4 c.toNat).map Char.toUpper)}) " ++
        "(<unknown>, line 1)"

def message : SyntaxFault → String
  | .unexpectedChar c position => s!"unexpected char {quote (.singleton c)} at {position}"
  | .unbalanced found none => s!"unexpected '{found}'"
  | .unbalanced found (some wanted) => s!"unexpected '{found}', expected '{wanted}'"
  | .openComment => "Missing end of comment tag"
  | .openRaw => "Missing end of raw directive"
  | .badName => "Invalid character in identifier"
  | .badNumber written => numberMessage written
  | .badEscape reason => reason
  | .expected wanted found => s!"expected token {quote wanted}, got {quote found}"
  | .endedBefore wanted => s!"unexpected end of template, expected {quote wanted}."
  | .noExpression found => s!"Expected an expression, got {quote found}"
  | .unexpected found => s!"unexpected {quote found}"
  | .noTagName => "tag name expected"
  | .unknownTag name wanted opened =>
    " ".intercalate (s!"Encountered unknown tag {quote name}." :: advice (some name) wanted opened)
  | .unclosed wanted opened =>
    " ".intercalate ("Unexpected end of template." :: advice none wanted opened)
  | .notAssignable kind => s!"can't assign to {quote kind}"
  | .noMember => "expected name or number"
  | .chainedTests => "You cannot chain multiple tests with is"
  | .badCall => "invalid syntax for function call expression"
  | .unknownFilter name => s!"No filter named {quote name}."
  | .unknownTest name => s!"No test named {quote name}."
  | .loopAssigned => "Can't assign to special loop variable in for-loop target"

/-- Whether a text is made of well-formed tags all the same, and fails for what
they mention. -/
def isMention : SyntaxFault → Bool
  | .unknownFilter _ => true
  | .unknownTest _ => true
  | .loopAssigned => true
  | _ => false

end SyntaxFault

inductive Kind where
  | data (s : String)
  | blockBegin
  | blockEnd
  | printBegin
  | printEnd
  | name (s : String)
  | text (s : String)
  | int (n : Nat)
  | real (x : Binary64)
  | sign (s : String)
  | done
  | bad (fault : SyntaxFault)

structure Token where
  line : Nat
  kind : Kind

/-- What a token is called in messages. -/
def Kind.called : Kind → String
  | .data _ => "template data / text"
  | .blockBegin => "begin of statement block"
  | .blockEnd => "end of statement block"
  | .printBegin => "begin of print statement"
  | .printEnd => "end of print statement"
  | .name s => s
  | .text _ => "string"
  | .int _ => "integer"
  | .real _ => "float"
  | .sign s => s
  | .done => "end of template"
  | .bad _ => "end of template"

end UmlPress.Template
