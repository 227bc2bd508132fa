import UmlPress.Template.Value
import UmlPress.Text.Utf8

/-!
# Faults while rendering

What can go wrong when a template is applied to values.
-/
namespace UmlPress.Template

/-- What is wrong with a constant expression that has no value at all. -/
inductive Flaw where
  | absent (why : Absence)
  | misuse (m : Misuse)

def Flaw.message : Flaw → String
  | .absent why => why.message
  | .misuse m => m.message

/-- Why a template that was found cannot be applied to anything. -/
inductive Unusable where
  | malformed (fault : SyntaxFault)
  | flawed (flaw : Flaw)
  | undecodable (fault : Text.Utf8.Fault)

def Unusable.message : Unusable → String
  | .malformed fault => fault.message
  | .flawed flaw => flaw.message
  | .undecodable fault => fault.message

inductive Fault where
  | absent (why : Absence)
  | misuse (m : Misuse)
  | operands (op left right : String)
  | operand (op type : String)
  | unordered (op left right : String)
  | noLength (type : String)
  | noContainer (type : String)
  | notTextIn (type : String)
  /-- A type that is no type of containers. -/
  | notGeneric (type : String)
  | badSlice
  | zeroStep
  | division (text : String)
  /-- An integer that is larger than every real number. -/
  | tooLarge
  /-- A constant that is written like a name that there is not. -/
  | noSuchName (name : String)
  /-- A part of an expression that is not constant. -/
  | notConstant
  | tooFew (wanted found : Nat)
  | tooMany (wanted : Nat)
  | notItems (type : String)
  | notCallable (type : String)
  | unknownFilter (name : String)
  | unknownTest (name : String)
  | arguments (text : String)
  | missing (name : String)
  | noneOf (names : List String)
  | noNames
  | unusable (why : Unusable)
  | tooDeep
  | readOnly

def Fault.message : Fault → String
  | .absent why => why.message
  | .misuse m => m.message
  | .operands op left right =>
    s!"unsupported operand type(s) for {op}: '{left}' and '{right}'"
  | .operand op type => s!"bad operand type for unary {op}: '{type}'"
  | .unordered op left right =>
    s!"'{op}' not supported between instances of '{left}' and '{right}'"
  | .noLength type => s!"object of type '{type}' has no len()"
  | .noContainer type => s!"argument of type '{type}' is not iterable"
  | .notTextIn type => s!"'in <string>' requires string as left operand, not {type}"
  | .notGeneric type => s!"type '{type}' is not subscriptable"
  | .badSlice => "slice indices must be integers or None or have an __index__ method"
  | .zeroStep => "slice step cannot be zero"
  | .division text => text
  | .tooLarge => "int too large to convert to float"
  | .noSuchName name => s!"name '{name}' is not defined"
  | .notConstant => "the expression is not constant"
  | .tooFew wanted found => s!"not enough values to unpack (expected {wanted}, got {found})"
  | .tooMany wanted => s!"too many values to unpack (expected {wanted})"
  | .notItems type => s!"cannot unpack non-iterable {type} object"
  | .notCallable type => s!"'{type}' object is not callable"
  | .unknownFilter name => s!"No filter named {quote name} found."
  | .unknownTest name => s!"No test named {quote name} found."
  | .arguments text => text
  | .missing name => name
  | .noneOf names => "none of the templates given were found: " ++ ", ".intercalate names
  | .noNames => "Tried to select from an empty list of templates."
  | .unusable why => why.message
  | .tooDeep => "maximum recursion depth exceeded"
  | .readOnly => "cannot assign attribute on non-namespace object"

abbrev Outcome := Except Fault

namespace Value

/-- A value that has to be there to be used. -/
def present (v : Value) : Outcome Value :=
  match v with
  | .absent _ why => .error (.absent why)
  | v => .ok v

/-- Whether a value counts as true. -/
def truth (v : Value) : Outcome Bool :=
  match v with
  | .none => .ok false
  | .bool b => .ok b
  | .int n => .ok (n ≠ 0)
  | .real x => .ok (!x.isZero)
  | .text s _ => .ok (s ≠ "")
  | .list items => .ok !items.isEmpty
  | .tuple items => .ok !items.isEmpty
  | .record pairs => .ok !pairs.isEmpty
  | .absent true why => .error (.absent why)
  | .absent false _ => .ok false
  | .options _ => .ok true
  | .loop _ _ => .ok true
  | .type _ => .ok true
  | .method _ _ _ => .ok true
  | .template _ => .ok true

/-- The text of a value on its own. -/
def display (v : Value) : Outcome String :=
  match v with
  | .text s _ => .ok s
  | .absent true why => .error (.absent why)
  | .absent false _ => .ok ""
  | v => .ok v.quoted

def escapedChar (c : Char) : List Char :=
  match c with
  | '&' => "&amp;".toList
  | '<' => "&lt;".toList
  | '>' => "&gt;".toList
  | '\x22' => "&#34;".toList
  | '\'' => "&#39;".toList
  | c => [c]

def escapedText (s : String) : String := .ofList (s.toList.flatMap escapedChar)

/-- The text of a value with its special characters written out, unless the
value is a safe text. -/
def escaped (v : Value) : Outcome String :=
  match v with
  | .text s true => .ok s
  | v => v.display.map escapedText

def isSafe : Value → Bool
  | .text _ safe => safe
  | _ => false

/-- The characters of a text, each as a text. -/
def characters (s : String) : List Value := s.toList.map fun c => plain (.singleton c)

/-- What a loop over a value goes through. -/
def iterate (v : Value) : Outcome (List Value) :=
  match v with
  | .list items => .ok items
  | .tuple items => .ok items
  | .text s _ => .ok (characters s)
  | .record pairs => .ok (pairs.map (·.1))
  | .absent true why => .error (.absent why)
  | .absent false _ => .ok []
  | .template _ => .error (.misuse (.missingKey "0"))
  | v => .error (.misuse (.notIterable v.typeName))

def length (v : Value) : Outcome Nat :=
  match v with
  | .list items => .ok items.length
  | .tuple items => .ok items.length
  | .text s _ => .ok s.length
  | .record pairs => .ok pairs.length
  | .loop _ items => .ok items.length
  | .absent true why => .error (.absent why)
  | .absent false _ => .ok 0
  | v => .error (.noLength v.typeName)

end Value
end UmlPress.Template
