import UmlPress.Json.Writer
import UmlPress.Misuse
import UmlPress.Options.Draft
import UmlPress.Template.Token

/-!
# Values in templates

The values that expressions work on. A text may be marked as safe, which keeps
it from being escaped again. A value may be absent: using a strictly absent one
is a fault, while one that is absent because a choice has no second branch is
printed as nothing. The types of values are values too, and so are the methods
that values have, though a template has little use for either.
-/
namespace UmlPress.Template

/-- Why a value is absent. -/
inductive Absence where
  | name (s : String)
  | member (object name : String)
  | element (object index : String)
  | hint (text : String)
  deriving Repr, DecidableEq

def Absence.message : Absence → String
  | .name s => s!"{quote s} is undefined"
  | .member object key => s!"{quote object} has no attribute {quote key}"
  | .element object index => s!"{object} has no element {index}"
  | .hint text => text

/-- A type of values, and where it is defined. -/
structure ValueType where
  name : String
  home : String := "builtins"
  deriving Repr, DecidableEq

namespace ValueType

/-- The name of a type with that of its home, unless it is one of the basic ones. -/
def fullName (t : ValueType) : String :=
  if t.home = "builtins" then t.name else t.home ++ "." ++ t.name

def text (t : ValueType) : String := "<class '" ++ t.fullName ++ "'>"

/-- The type of types. -/
def type : ValueType := ⟨"type", "builtins"⟩

end ValueType

/-- The ways in which a method can belong to a value. -/
inductive Binding where
  | native
  | slot
  | bound
  | free
  /-- A method of a type, for any value of it. -/
  | shared
  | sharedSlot
  deriving Repr, DecidableEq

def Binding.typeName : Binding → String
  | .native => "builtin_function_or_method"
  | .slot => "method-wrapper"
  | .bound => "method"
  | .free => "function"
  | .shared => "method_descriptor"
  | .sharedSlot => "wrapper_descriptor"

inductive Value where
  | none
  | bool (b : Bool)
  | int (n : Int)
  | real (x : Binary64)
  | text (s : String) (safe : Bool)
  | list (items : List Value)
  | tuple (items : List Value)
  | record (pairs : List (Value × Value))
  | absent (strict : Bool) (why : Absence)
  | options (o : Options)
  /-- The state of a loop: the number of items before the current one, and all
  items. -/
  | loop (before : Nat) (items : List Value)
  | type (t : ValueType)
  | method (binding : Binding) (owner : Value) (name : String)
  /-- A template as seen from inside. -/
  | template (name : String)
  deriving Inhabited

namespace Value

def plain (s : String) : Value := .text s false

mutual

def ofJson : Json → Value
  | .null => .none
  | .bool b => .bool b
  | .int n => .int n
  | .real x => .real x
  | .text s => .plain s
  | .list xs => .list (ofItems xs)
  | .object es => .record (ofEntries es)

def ofItems : List Json → List Value
  | [] => []
  | x :: r => ofJson x :: ofItems r

def ofEntries : List (String × Json) → List (Value × Value)
  | [] => []
  | (k, v) :: r => (.plain k, ofJson v) :: ofEntries r

end

/-- The type of a value. -/
def typeOf : Value → ValueType
  | .none => ⟨"NoneType", "builtins"⟩
  | .bool _ => ⟨"bool", "builtins"⟩
  | .int _ => ⟨"int", "builtins"⟩
  | .real _ => ⟨"float", "builtins"⟩
  | .text _ false => ⟨"str", "builtins"⟩
  | .text _ true => ⟨"Markup", "markupsafe"⟩
  | .list _ => ⟨"list", "builtins"⟩
  | .tuple _ => ⟨"tuple", "builtins"⟩
  | .record _ => ⟨"dict", "builtins"⟩
  | .absent true _ => ⟨"StrictUndefined", "jinja2.runtime"⟩
  | .absent false _ => ⟨"Undefined", "jinja2.runtime"⟩
  | .options _ => ⟨"EmitterConfig", "umlgen.codegen.core.config"⟩
  | .loop _ _ => ⟨"LoopContext", "jinja2.runtime"⟩
  | .type _ => .type
  | .method binding _ _ => ⟨binding.typeName, "builtins"⟩
  | .template _ => ⟨"TemplateReference", "jinja2.runtime"⟩

/-- The short name of a value's type. -/
def typeName (v : Value) : String := v.typeOf.name

/-- What a value is called where something is missing in it. -/
def called : Value → String
  | .none => "None"
  | v => v.typeOf.fullName ++ " object"

/-- Custom entries as a record. -/
def ofCustom (c : Custom) : Value := .record (c.map fun e => (ofJson e.1, ofJson e.2))

def optionText (e : String × Json) : String := e.1 ++ "=" ++ e.2.quoted

/-- Options with all their values. -/
def optionsText (o : Options) : String :=
  let d := Options.Draft.ofOptions o
  "EmitterConfig(" ++
    ", ".intercalate (d.optionEntries.map optionText ++ ["custom=" ++ o.custom.quoted]) ++ ")"

mutual

/-- A value inside another one: texts in quotes, containers in brackets. -/
def quoted : Value → String
  | .none => "None"
  | .bool b => if b then "True" else "False"
  | .int n => toString n
  | .real x => x.text
  | .text s false => quote s
  | .text s true => "Markup(" ++ quote s ++ ")"
  | .list items => "[" ++ quotedItems items ++ "]"
  | .tuple [v] => "(" ++ quoted v ++ ",)"
  | .tuple items => "(" ++ quotedItems items ++ ")"
  | .record pairs => "\x7b" ++ quotedPairs pairs ++ "\x7d"
  | .absent _ _ => "Undefined"
  | .options o => optionsText o
  | .loop before items => "<LoopContext " ++ toString (before + 1) ++ "/" ++
      toString items.length ++ ">"
  | .type t => t.text
  | .method .shared (.type t) name => "<method '" ++ name ++ "' of '" ++ t.name ++ "' objects>"
  | .method .sharedSlot (.type t) name =>
    "<slot wrapper '" ++ name ++ "' of '" ++ t.name ++ "' objects>"
  | .method binding owner name =>
    "<" ++ binding.typeName ++ " " ++ name ++ " of " ++ quoted owner ++ ">"
  | .template name => "<TemplateReference " ++ quote name ++ ">"

def quotedItems : List Value → String
  | [] => ""
  | [v] => quoted v
  | v :: r => quoted v ++ ", " ++ quotedItems r

def quotedPairs : List (Value × Value) → String
  | [] => ""
  | [(k, v)] => quoted k ++ ": " ++ quoted v
  | (k, v) :: r => quoted k ++ ": " ++ quoted v ++ ", " ++ quotedPairs r

end

mutual

/-- What the first number of a value that has no digits is written as. -/
def wordIn? : Value → Option String
  | .real x =>
    if x.fraction?.isSome then Option.none
    else some (if x.isNegative then x.neg.text else x.text)
  | .list items => wordAmong? items
  | .tuple items => wordAmong? items
  | .record pairs => wordInPairs? pairs
  | _ => Option.none

def wordAmong? : List Value → Option String
  | [] => Option.none
  | v :: r => wordIn? v <|> wordAmong? r

def wordInPairs? : List (Value × Value) → Option String
  | [] => Option.none
  | (k, v) :: r => wordIn? k <|> wordIn? v <|> wordInPairs? r

end

mutual

/-- Whether a value is made of numbers, texts and the like alone. -/
def isPlain : Value → Bool
  | .none => true
  | .bool _ => true
  | .int _ => true
  | .real _ => true
  | .text _ _ => true
  | .list items => allPlain items
  | .tuple items => allPlain items
  | .record pairs => allPairsPlain pairs
  | _ => false

def allPlain : List Value → Bool
  | [] => true
  | v :: r => isPlain v && allPlain r

def allPairsPlain : List (Value × Value) → Bool
  | [] => true
  | (k, v) :: r => isPlain k && isPlain v && allPairsPlain r

end

def number? : Value → Option (Int ⊕ Binary64)
  | .bool b => some (.inl (if b then 1 else 0))
  | .int n => some (.inl n)
  | .real x => some (.inr x)
  | _ => Option.none

/-- Equality of values that are no containers; others are told apart by what
they are printed as. -/
def sameKey (v w : Value) : Bool :=
  match v, w with
  | .text a _, .text b _ => a = b
  | v, w =>
    match v.number?, w.number? with
    | some a, some b => Json.sameNumber a b
    | _, _ => v.typeName = w.typeName && v.quoted = w.quoted

def lookup? (key : Value) : List (Value × Value) → Option Value
  | [] => Option.none
  | (k, v) :: r => if sameKey k key then some v else lookup? key r

def isHashable : Value → Bool
  | .list _ => false
  | .record _ => false
  | .options _ => false
  | _ => true

/-- Values that every template knows by a name, unless a variable has the name. -/
def global? : String → Option Value
  | "range" => some (.type ⟨"range", "builtins"⟩)
  | "dict" => some (.type ⟨"dict", "builtins"⟩)
  | "cycler" => some (.type ⟨"Cycler", "jinja2.utils"⟩)
  | "joiner" => some (.type ⟨"Joiner", "jinja2.utils"⟩)
  | "namespace" => some (.type ⟨"Namespace", "jinja2.utils"⟩)
  | "lipsum" => some (.method .free .none "generate_lorem_ipsum")
  | _ => Option.none

end Value
end UmlPress.Template
