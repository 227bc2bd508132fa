import UmlPress.Template.Value

/-!
# Members of values

What stands behind a dot. Options and loops have fields, numbers have parts, and
every value has a type. Beside these a value has the methods of its type, which
hide entries of the same name in a record.
-/
namespace UmlPress.Template

namespace ValueType

def object : ValueType := ⟨"object", "builtins"⟩

/-- The type that a type is a kind of. -/
def base? (t : ValueType) : Option ValueType :=
  match t.name with
  | "object" => none
  | "bool" => some ⟨"int", "builtins"⟩
  | "Markup" => some ⟨"str", "builtins"⟩
  | "StrictUndefined" => some ⟨"Undefined", "jinja2.runtime"⟩
  | _ => some object

/-- A type and all that it is a kind of. -/
def line (t : ValueType) : List ValueType :=
  match t.base? with
  | none => [t]
  | some b => if b = object then [t, b] else [t, b, object]

def words (s : String) : List String := s.splitOn " "

/-- Methods that every value has. -/
def commonSlots : List String :=
  words ("__delattr__ __eq__ __ge__ __getattribute__ __gt__ __hash__ __init__ __le__ __lt__ " ++
    "__ne__ __repr__ __setattr__ __str__")

def commonMethods : List String :=
  words ("__dir__ __format__ __getstate__ __init_subclass__ __new__ __reduce__ __reduce_ex__ " ++
    "__sizeof__ __subclasshook__")

def numberSlots : String :=
  "__abs__ __add__ __bool__ __divmod__ __float__ __floordiv__ __int__ __mod__ __mul__ __neg__ " ++
    "__pos__ __pow__ __radd__ __rdivmod__ __rfloordiv__ __rmod__ __rmul__ __rpow__ __rsub__ " ++
    "__rtruediv__ __sub__ __truediv__"

def bitSlots : String :=
  "__and__ __index__ __invert__ __lshift__ __or__ __rand__ __rlshift__ __ror__ __rrshift__ " ++
    "__rshift__ __rxor__ __xor__"

/-- Methods that signs and statements stand for, by the name of a type. -/
def ownSlots (name : String) : List String :=
  match name with
  | "str" => words ("__add__ __contains__ __getitem__ __iter__ __len__ __mod__ __mul__ " ++
      "__rmod__ __rmul__")
  | "list" => words ("__add__ __contains__ __delitem__ __iadd__ __imul__ __iter__ __len__ " ++
      "__mul__ __rmul__ __setitem__")
  | "tuple" => words "__add__ __contains__ __getitem__ __iter__ __len__ __mul__ __rmul__"
  | "dict" => words "__delitem__ __ior__ __iter__ __len__ __or__ __ror__ __setitem__"
  | "int" => words (numberSlots ++ " " ++ bitSlots)
  | "float" => words numberSlots
  | "NoneType" => ["__bool__"]
  | "range" => words "__bool__ __contains__ __getitem__ __iter__ __len__"
  | "type" => words "__call__ __or__ __ror__"
  | "builtin_function_or_method" => ["__call__"]
  | "method-wrapper" => ["__call__"]
  | "method" => ["__call__"]
  | "function" => ["__call__"]
  | _ => []

/-- The other methods, by the name of a type. -/
def ownMethods (name : String) : List String :=
  match name with
  | "str" => words ("__getnewargs__ capitalize casefold center count encode endswith " ++
      "expandtabs find format format_map index isalnum isalpha isascii isdecimal isdigit " ++
      "isidentifier islower isnumeric isprintable isspace istitle isupper join ljust lower " ++
      "lstrip maketrans partition removeprefix removesuffix replace rfind rindex rjust " ++
      "rpartition rsplit rstrip split splitlines startswith strip swapcase title translate " ++
      "upper zfill")
  | "list" => words ("__class_getitem__ __getitem__ __reversed__ append clear copy count " ++
      "extend index insert pop remove reverse sort")
  | "tuple" => words "__class_getitem__ __getnewargs__ count index"
  | "dict" => words ("__class_getitem__ __contains__ __getitem__ __reversed__ clear copy " ++
      "fromkeys get items keys pop popitem setdefault update values")
  | "int" => words ("__ceil__ __floor__ __getnewargs__ __round__ __trunc__ as_integer_ratio " ++
      "bit_count bit_length conjugate from_bytes to_bytes")
  | "float" => words ("__ceil__ __floor__ __getformat__ __getnewargs__ __round__ __trunc__ " ++
      "as_integer_ratio conjugate fromhex hex is_integer")
  | "range" => words "__reversed__ count index"
  | "type" => words ("__instancecheck__ __prepare__ __subclasscheck__ __subclasses__ mro")
  | _ => []

/-- Methods that stand for others of the same name or come on top of them. -/
def boundMethods (name : String) : List String :=
  match name with
  | "Markup" => words ("__add__ __format__ __getitem__ __html__ __html_format__ __mod__ __mul__ " ++
      "__radd__ __repr__ __rmul__ capitalize casefold center escape expandtabs format " ++
      "format_map join ljust lower lstrip partition removeprefix removesuffix replace rjust " ++
      "rpartition rsplit rstrip split splitlines strip striptags swapcase title translate " ++
      "unescape upper zfill")
  | "EmitterConfig" => words "__eq__ __init__ __post_init__ __repr__ to_dict"
  | "LoopContext" => words ("__call__ __init__ __iter__ __len__ __next__ __repr__ _peek_next " ++
      "changed cycle")
  | "TemplateReference" => words "__getitem__ __init__ __repr__"
  | "Undefined" => words ("__add__ __bool__ __call__ __contains__ __eq__ __getattr__ " ++
      "__getitem__ __hash__ __init__ __iter__ __len__ __ne__ __repr__ __str__ __sub__")
  | "Cycler" => words "__init__ __next__ current next reset"
  | "Joiner" => words "__call__ __init__"
  | "Namespace" => words "__getattribute__ __init__ __repr__ __setitem__"
  | _ => []

/-- How a method of a name belongs to a value of a type, if it has one. -/
def binding? (t : ValueType) (name : String) : Option Binding :=
  let names := t.line.map (·.name)
  if names.any fun n => (boundMethods n).contains name then some .bound
  else if commonSlots.contains name || names.any fun n => (ownSlots n).contains name then
    some .slot
  else if commonMethods.contains name || names.any fun n => (ownMethods n).contains name then
    some .native
  else none

end ValueType

namespace Value

/-- What is known about a loop. No loop here goes into itself, so its depth is
always that of a first one. -/
def loopMember? (before : Nat) (items : List Value) (name : String) : Option Value :=
  let after := items.length - (before + 1)
  match name with
  | "index" => some (.int (before + 1))
  | "index0" => some (.int before)
  | "revindex" => some (.int (after + 1))
  | "revindex0" => some (.int after)
  | "first" => some (.bool (before = 0))
  | "last" => some (.bool (after = 0))
  | "length" => some (.int items.length)
  | "depth" => some (.int 1)
  | "depth0" => some (.int 0)
  | "previtem" =>
    some (if before = 0 then .absent true (.hint "there is no previous item")
      else items.getD (before - 1) .none)
  | "nextitem" =>
    some (items.getD (before + 1) (.absent true (.hint "there is no next item")))
  | _ => Option.none

/-- Options with the custom entries as one of them. -/
def optionFields (o : Options) : Keyed String Value :=
  (Options.Draft.ofOptions o).optionEntries.map (fun e => (e.1, ofJson e.2)) ++
    [("custom", ofCustom o.custom)]

def optionMember? (o : Options) (name : String) : Option Value :=
  match name with
  | "__dict__" => some (.record ((optionFields o).map fun e => (.plain e.1, e.2)))
  | name => Keyed.get? name (optionFields o)

/-- The parts of a number, which is a real one with nothing imaginary. -/
def numberMember? (n : Int) (name : String) : Option Value :=
  match name with
  | "real" => some (.int n)
  | "numerator" => some (.int n)
  | "imag" => some (.int 0)
  | "denominator" => some (.int 1)
  | _ => Option.none

def realMember? (x : Binary64) (name : String) : Option Value :=
  match name with
  | "real" => some (.real x)
  | "imag" => some (.real (.ofInt 0))
  | _ => Option.none

def typeMember? (t : ValueType) (name : String) : Option Value :=
  match name with
  | "__name__" => some (.plain t.name)
  | "__qualname__" => some (.plain t.name)
  | "__module__" => some (.plain t.home)
  | "__base__" => some ((t.base?.map Value.type).getD .none)
  | "__bases__" => some (.tuple (t.base?.toList.map .type))
  | "__mro__" => some (.tuple (t.line.map .type))
  | name =>
    match t.binding? name with
    | some .native => some (.method .shared (.type t) name)
    | some .slot => some (.method .sharedSlot (.type t) name)
    | some _ => some (.method .free (.type t) name)
    | Option.none => Option.none

def methodMember? (owner : Value) (own name : String) : Option Value :=
  match name with
  | "__name__" => some (.plain own)
  | "__self__" => some owner
  | _ => Option.none

/-- The fields of a value. -/
def fieldIn? (v : Value) (name : String) : Option Value :=
  match v with
  | .options o => optionMember? o name
  | .loop before items => loopMember? before items name
  | .bool b => numberMember? b.toInt name
  | .int n => numberMember? n name
  | .real x => realMember? x name
  | .type t => typeMember? t name
  | .method _ owner own => methodMember? owner own name
  | _ => Option.none

/-- What every value says about its type. -/
def typeIn? (v : Value) (name : String) : Option Value :=
  match name with
  | "__class__" => some (.type v.typeOf)
  | "__hash__" => if v.isHashable then Option.none else some .none
  | "__module__" => if v.typeOf.home = "builtins" then Option.none else some (.plain v.typeOf.home)
  | _ => Option.none

def methodIn? (v : Value) (name : String) : Option Value :=
  (v.typeOf.binding? name).map fun binding => .method binding v name

def memberIn? (v : Value) (name : String) : Option Value :=
  fieldIn? v name <|> typeIn? v name <|> methodIn? v name

end Value
end UmlPress.Template
