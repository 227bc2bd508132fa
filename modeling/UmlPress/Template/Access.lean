import UmlPress.Template.Fault
import UmlPress.Template.Members

/-!
# Members, items and slices

Members and items are looked up in both ways, the fitting one first, and what
neither way finds is absent. Slices are not forgiving.
-/
namespace UmlPress.Template.Value

/-- The item of a list at a position, which may be counted from the end. -/
def itemAt? (items : List Value) (n : Int) : Option Value :=
  if 0 ≤ n then items[n.toNat]?
  else if (-n).toNat ≤ items.length then items[items.length - (-n).toNat]?
  else Option.none

def position? : Value → Option Int
  | .int n => some n
  | .bool b => some (if b then 1 else 0)
  | _ => Option.none

/-- The items of a list or text, the characters of a safe text being safe. -/
def sequence? : Value → Option (List Value)
  | .list items => some items
  | .tuple items => some items
  | .text s safe => some (s.toList.map fun c => .text (.singleton c) safe)
  | _ => Option.none

/-- Looks an item up by what stands in the brackets. -/
def itemIn? (v index : Value) : Outcome (Option Value) :=
  match v with
  | .record pairs =>
    match index with
    | .absent true why => .error (.absent why)
    | index => .ok (lookup? index pairs)
  | v =>
    match sequence? v, position? index with
    | some items, some n => .ok (itemAt? items n)
    | _, _ => .ok Option.none

/-- The member of a value, else its item of that name. -/
def member (v : Value) (name : String) : Outcome Value :=
  match memberIn? v name with
  | some w => .ok w
  | Option.none => do
    let v ← v.present
    return (← itemIn? v (plain name)).getD (.absent true (.member v.called name))

/-- The item of a value, else its member of that name. -/
def item (v index : Value) : Outcome Value :=
  match v with
  | .absent _ why => .error (.absent why)
  | v => do
    match ← itemIn? v index with
    | some w => return w
    | Option.none =>
      match index with
      | .text name _ =>
        return (memberIn? v name).getD (.absent true (.member v.called name))
      | index => return .absent true (.element v.called index.quoted)

/-- A bound of a slice, if it is given. -/
def bound (v : Option Value) : Outcome (Option Int) :=
  match v with
  | Option.none => .ok Option.none
  | some .none => .ok Option.none
  | some v =>
    match position? v with
    | some n => .ok (some n)
    | Option.none => .error .badSlice

/-- A bound within the limits of a sequence. Counting down, positions start one
before the first. -/
def clamp (length : Nat) (down : Bool) (n : Int) : Int :=
  let n := if n < 0 then n + length else n
  let low : Int := if down then -1 else 0
  let high : Int := if down then (length : Int) - 1 else length
  max low (min high n)

/-- The positions from one bound to another by steps. -/
def positions (fuel : Nat) (start stop step : Int) : List Nat :=
  match fuel with
  | 0 => []
  | n + 1 =>
    if (0 < step ∧ start < stop) ∨ (step < 0 ∧ stop < start) then
      start.toNat :: positions n (start + step) stop step
    else []

def sliceItems {α : Type} (items : List α) (start stop : Option Int) (step : Int) : List α :=
  let down := step < 0
  let length := items.length
  let first := match start with
    | some n => clamp length down n
    | Option.none => if down then (length : Int) - 1 else 0
  let last := match stop with
    | some n => clamp length down n
    | Option.none => if down then -1 else length
  (positions length first last step).filterMap (items[·]?)

def slice (v : Value) (start stop step : Option Value) : Outcome Value := do
  let cut {α : Type} (items : List α) : Outcome (List α) := do
    let step := (← bound step).getD 1
    let start ← bound start
    let stop ← bound stop
    if step = 0 then throw .zeroStep
    return sliceItems items start stop step
  match v with
  | .list items => return .list (← cut items)
  | .tuple items => return .tuple (← cut items)
  | .text s safe => return .text (.ofList (← cut s.toList)) safe
  | .absent _ why => throw (.absent why)
  | .record _ => throw (.misuse (.notHashable "slice"))
  | .type t => throw (.notGeneric t.name)
  | v => throw (.misuse (.notSubscriptable v.typeName))

end UmlPress.Template.Value
