import UmlPress.Template.Operators
import UmlPress.Text.Case

/-!
# Filters and tests

A filter makes a value from a value, and a test says whether one has a
property. Both may take further arguments, by place or by name.
-/
namespace UmlPress.Template

/-- Arguments with the names that some of them are given by. -/
abbrev Arguments := List (Option String × Value)

/-- A place for each of the named parameters, all of which may be left out.
`lead` counts the arguments in front of them. -/
def place (function : String) (lead : Nat) (parameters : List String) (args : Arguments) :
    Outcome (List (Option Value)) := do
  let ordered := args.filterMap fun a => if a.1.isNone then some a.2 else none
  let named := args.filterMap fun a => a.1.map (·, a.2)
  for (name, _) in named do
    match parameters.idxOf? name with
    | none =>
      throw (.arguments s!"{function}() got an unexpected keyword argument {quote name}")
    | some i =>
      if i < ordered.length then
        throw (.arguments s!"{function}() got multiple values for argument {quote name}")
  if parameters.length < ordered.length then
    let given := lead + ordered.length
    if parameters.isEmpty then
      let plural := if lead = 1 then "" else "s"
      throw (.arguments
        s!"{function}() takes {lead} positional argument{plural} but {given} were given")
    else
      throw (.arguments (s!"{function}() takes from {lead} to {lead + parameters.length} " ++
        s!"positional arguments but {given} were given"))
  return (List.range parameters.length).map fun i =>
    match ordered[i]? with
    | some v => some v
    | none => (parameters[i]?).bind (named.lookup ·)

namespace Filter

/-- A name with its first character in upper case. -/
def typeName (v : Value) : Outcome Value := do
  if !(← v.truth) then return v
  match v with
  | .text s safe => return .text (.ofList (Text.capitalize s.toList)) safe
  | .list (.text _ _ :: _) => throw (.misuse (.notAppendable "str" "list"))
  | .list (w :: _) => throw (.misuse (.noMember w.typeName "upper"))
  | .tuple (.text _ _ :: _) => throw (.misuse (.notAppendable "str" "tuple"))
  | .tuple (w :: _) => throw (.misuse (.noMember w.typeName "upper"))
  | .record _ => throw (.misuse (.missingKey "0"))
  | .template _ => throw (.misuse (.missingKey "0"))
  | .type t => throw (.notGeneric t.name)
  | v => throw (.misuse (.notSubscriptable v.typeName))

/-- Changes the characters of a value's text. -/
def onText (change : List Char → List Char) (v : Value) : Outcome Value := do
  return .text (.ofList (change (← v.display).toList)) v.isSafe

/-- The part of a value that a path of members and positions leads to. -/
def reach (v : Value) : List String → Outcome Value
  | [] => .ok v
  | step :: r => do
    let index : Value := match step.toNat? with
      | some n => .int n
      | none => .plain step
    reach (← v.item index) r

/-- The texts of items with a separator between them. With escaping on, one
safe item makes the others and the separator safe as well. -/
def join (escaping : Bool) (v separator : Value) (part : Option Value) : Outcome Value := do
  let items ← v.iterate
  let items ← match part with
    | none => pure items
    | some .none => pure items
    | some (.int n) => items.mapM fun i => i.item (.int n)
    | some p => do
      let path := (← p.display).splitOn "."
      items.mapM fun i => reach i path
  if escaping && (separator.isSafe || items.any Value.isSafe) then
    return .text ((← separator.escaped).intercalate (← items.mapM Value.escaped)) true
  else return .plain ((← separator.display).intercalate (← items.mapM Value.display))

/-- A value in place of one that is absent, or of one that counts as false if
that is asked for. -/
def default (v other : Value) (falsy : Bool) : Outcome Value := do
  match v with
  | .absent _ _ => return other
  | v => if falsy && !(← v.truth) then return other else return v

def names : List String :=
  ["type_name", "upper", "lower", "length", "count", "join", "default", "d", "e", "escape"]

def apply (escaping : Bool) (name : String) (v : Value) (args : Arguments) : Outcome Value := do
  match name with
  | "type_name" =>
    let _ ← place "format_type_name" 1 [] args
    typeName v
  | "upper" =>
    let _ ← place "do_upper" 1 [] args
    onText Text.upper v
  | "lower" =>
    let _ ← place "do_lower" 1 [] args
    onText Text.lower v
  | "join" =>
    match ← place "sync_do_join" 2 ["d", "attribute"] args with
    | [d, part] => join escaping v (d.getD (.plain "")) part
    | _ => return v
  | "e" => escape v args
  | "escape" => escape v args
  | "length" => length v args
  | "count" => length v args
  | "default" => orElse v args
  | "d" => orElse v args
  | name => throw (.unknownFilter name)
where
  escape (v : Value) (args : Arguments) : Outcome Value := do
    let _ ← place "escape" 1 [] args
    return .text (← v.escaped) true
  length (v : Value) (args : Arguments) : Outcome Value := do
    if !args.isEmpty then
      throw (.arguments s!"len() takes exactly one argument ({args.length + 1} given)")
    return .int (← v.length)
  orElse (v : Value) (args : Arguments) : Outcome Value := do
    match ← place "do_default" 1 ["default_value", "boolean"] args with
    | [other, falsy] =>
      default v (other.getD (.plain "")) (← (falsy.getD (.bool false)).truth)
    | _ => return v

end Filter

namespace Test

def simple? : String → Option (Value → Bool)
  | "defined" => some fun v => match v with
    | .absent _ _ => false
    | _ => true
  | "undefined" => some fun v => match v with
    | .absent _ _ => true
    | _ => false
  | "none" => some fun v => match v with
    | .none => true
    | _ => false
  | "boolean" => some fun v => match v with
    | .bool _ => true
    | _ => false
  | "true" => some fun v => match v with
    | .bool b => b
    | _ => false
  | "false" => some fun v => match v with
    | .bool b => !b
    | _ => false
  | "string" => some fun v => match v with
    | .text _ _ => true
    | _ => false
  | "number" => some fun v => v.number?.isSome
  | "integer" => some fun v => match v with
    | .int _ => true
    | _ => false
  | "float" => some fun v => match v with
    | .real _ => true
    | _ => false
  | "mapping" => some fun v => match v with
    | .record _ => true
    | _ => false
  | "sequence" => some fun v => match v with
    | .list _ => true
    | .tuple _ => true
    | .text _ _ => true
    | .record _ => true
    | _ => false
  | "escaped" => some Value.isSafe
  | _ => none

/-- Tests that compare with one argument. -/
def comparison? : String → Option Comparison
  | "eq" => some .eq
  | "equalto" => some .eq
  | "ne" => some .ne
  | "lt" => some .lt
  | "lessthan" => some .lt
  | "le" => some .le
  | "gt" => some .gt
  | "greaterthan" => some .gt
  | "ge" => some .ge
  | "in" => some .within
  | _ => none

def isKnown (name : String) : Bool :=
  (simple? name).isSome || (comparison? name).isSome || ["even", "odd"].contains name

/-- Whether a number leaves a remainder of one when it is halved. -/
def remainder (v : Value) : Outcome Value := v.arithmetic .mod (.int 2)

def apply (name : String) (v : Value) (args : Arguments) : Outcome Bool := do
  if let some p := simple? name then
    let _ ← place s!"test_{name}" 1 [] args
    return p v
  else if let some op := comparison? name then
    match args with
    | [(none, w)] => Value.holds op v w
    | args => throw (.arguments s!"{name} expected 2 arguments, got {args.length + 1}")
  else if name = "even" then (← remainder v).equal (.int 0)
  else if name = "odd" then (← remainder v).equal (.int 1)
  else throw (.unknownTest name)

end Test
end UmlPress.Template
