import UmlPress.Json.Writer

/-!
# Values of the wrong type

Documents are not checked against a schema before they are used. What happens
to a value that has not the type its place asks for is one of a few causes.
-/
namespace UmlPress

inductive Misuse where
  /-- A value of this type has no such member. -/
  | noMember (type member : String)
  /-- A value of this type has no items that a position could select. -/
  | notSubscriptable (type : String)
  | missingKey (key : String)
  | notIterable (type : String)
  /-- A list or an object cannot be looked up. -/
  | notHashable (type : String)
  | notAppendable (left right : String)
  | notTextItem (position : Nat) (type : String)
  | notPath (type : String)
  | notAPair (position : Nat)
  | unknownOption (name : String)
  /-- A text that would have more characters than can be counted. -/
  | tooLong
  /-- A text that there is no room for. -/
  | noRoom
  /-- The owners of an element lead back to it. -/
  | endlessOwners
  deriving Repr, DecidableEq

namespace Misuse

def message : Misuse → String
  | .noMember type member => s!"'{type}' object has no attribute '{member}'"
  | .notSubscriptable type => s!"'{type}' object is not subscriptable"
  | .missingKey key => key
  | .notIterable type => s!"'{type}' object is not iterable"
  | .notHashable type => s!"unhashable type: '{type}'"
  | .notAppendable left right => s!"can only concatenate {left} (not \"{right}\") to {left}"
  | .notTextItem position type =>
    s!"sequence item {position}: expected str instance, {type} found"
  | .notPath type => s!"a path cannot be made of '{type}'"
  | .notAPair position =>
    s!"cannot convert dictionary update sequence element #{position} to a sequence"
  | .unknownOption name => s!"unexpected option '{name}'"
  | .tooLong => "cannot fit 'int' into an index-sized integer"
  | .noRoom => ""
  | .endlessOwners => "the owners of an element form a cycle"

end Misuse

namespace Json

/-- What a value can be looked up by, if it can. -/
def asKey (v : Json) : Except Misuse Json :=
  if v.isKey then .ok v else .error (.notHashable v.typeName)

def asText : Json → Nat → Except Misuse String
  | .text s, _ => .ok s
  | v, position => .error (.notTextItem position v.typeName)

end Json
end UmlPress
