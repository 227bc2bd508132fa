import UmlPress.Template.Access
import UmlPress.Template.Tree

/-!
# Operators

Sums of numbers, texts and lists, the other operations of arithmetic, and
comparisons. A text that is added to a safe one is escaped first.
-/
namespace UmlPress.Template

namespace Arithmetic

def sign : Arithmetic → String
  | .add => "+"
  | .sub => "-"
  | .mul => "*"
  | .div => "/"
  | .floordiv => "//"
  | .mod => "%"
  | .pow => "** or pow()"

end Arithmetic

namespace Value

/-- A number as a real one. Integers beyond the range of real numbers are none. -/
def toReal : Int ⊕ Binary64 → Outcome Binary64
  | .inl n => if (Binary64.ofInt n).fraction?.isSome then .ok (.ofInt n) else .error .tooLarge
  | .inr x => .ok x

/-- A result of two numbers as real ones. -/
def combined (f : Binary64 → Binary64 → Binary64) (a b : Int ⊕ Binary64) : Outcome Value := do
  let x ← toReal a
  let y ← toReal b
  return .real (f x y)

/-- The product or quotient of two numbers as a ratio, where both are finite. -/
def ofRatios (x y : Binary64) (combine : Int × Nat → Int × Nat → Int × Nat) : Binary64 :=
  match x.fraction?, y.fraction? with
  | some a, some b =>
    let (num, den) := combine a b
    .ofSignedRatio num den
  | _, _ => .nan

def timesReal (x y : Binary64) : Binary64 :=
  ofRatios x y fun (a, b) (c, d) => (a * c, b * d)

def overReal (x y : Binary64) : Binary64 :=
  ofRatios x y fun (a, b) (c, d) => (if c < 0 then -(a * d) else a * d, b * c.natAbs)

def floorRatio (a b : Int × Nat) : Int := (a.1 * b.2 * b.1.sign).fdiv (a.2 * b.1.natAbs)

def floorReal (x y : Binary64) : Binary64 :=
  ofRatios x y fun a b => (floorRatio a b, 1)

/-- What is left of a number after taking away a whole number of times another. -/
def remainderReal (x y : Binary64) : Binary64 :=
  ofRatios x y fun a b =>
    (a.1 * b.2 - floorRatio a b * b.1 * a.2, a.2 * b.2)

def calculate (op : Arithmetic) (a b : Int ⊕ Binary64) : Outcome Value :=
  let isZero : Bool := match b with
    | .inl n => n = 0
    | .inr x => x.isZero
  match op, a, b with
  | .add, .inl m, .inl n => .ok (.int (m + n))
  | .sub, .inl m, .inl n => .ok (.int (m - n))
  | .mul, .inl m, .inl n => .ok (.int (m * n))
  | .add, a, b => combined .add a b
  | .sub, a, b => combined (fun x y => x.add y.neg) a b
  | .mul, a, b => combined timesReal a b
  | .div, .inl m, .inl n =>
    if isZero then .error (.division "division by zero")
    else
      let q : Binary64 := .ofSignedRatio (m * n.sign) n.natAbs
      if q.fraction?.isSome then .ok (.real q)
      else .error (.division "integer division result too large for a float")
  | .div, a, b =>
    if isZero then .error (.division "float division by zero") else combined overReal a b
  | .floordiv, .inl m, .inl n =>
    if isZero then .error (.division "integer division or modulo by zero")
    else .ok (.int (m.fdiv n))
  | .floordiv, a, b =>
    if isZero then .error (.division "float floor division by zero")
    else combined floorReal a b
  | .mod, .inl m, .inl n =>
    if isZero then .error (.division "integer modulo by zero") else .ok (.int (m.fmod n))
  | .mod, a, b =>
    if isZero then .error (.division "float modulo")
    else combined remainderReal a b
  | .pow, .inl m, .inl (.ofNat n) => .ok (.int (Int.pow m n))
  | .pow, .inl m, .inl (.negSucc n) =>
    if m = 0 then .error (.division "0.0 cannot be raised to a negative power")
    else .ok (.real (.ofSignedRatio (Int.pow m.sign (n + 1)) (Nat.pow m.natAbs (n + 1))))
  | .pow, _, _ => .ok (.real .nan)

def repeated {α : Type} (items : List α) (n : Int) : List α :=
  (List.replicate n.toNat items).flatten

/-- A text put behind another one. -/
def appended (a : String) (safeA : Bool) (b : String) (safeB : Bool) : Value :=
  if safeA || safeB then
    let part (s : String) (safe : Bool) := if safe then s else escapedText s
    .text (part a safeA ++ part b safeB) true
  else plain (a ++ b)

/-- What a sum means for values that are not both numbers. -/
def sum (v w : Value) : Outcome Value :=
  match v, w with
  | .text a safe, .text b safe' => .ok (appended a safe b safe')
  | .list xs, .list ys => .ok (.list (xs ++ ys))
  | .tuple xs, .tuple ys => .ok (.tuple (xs ++ ys))
  | .text _ false, w => .error (.misuse (.notAppendable "str" w.typeName))
  | .list _, w => .error (.misuse (.notAppendable "list" w.typeName))
  | .tuple _, w => .error (.misuse (.notAppendable "tuple" w.typeName))
  | v, w => .error (.operands "+" v.typeName w.typeName)

/-- A text or list times a number. -/
def times (v w : Value) : Outcome Value :=
  match v, position? w, position? v, w with
  | .text s safe, some n, _, _ => .ok (.text (.ofList (repeated s.toList n)) safe)
  | .list xs, some n, _, _ => .ok (.list (repeated xs n))
  | .tuple xs, some n, _, _ => .ok (.tuple (repeated xs n))
  | _, _, some n, .text s safe => .ok (.text (.ofList (repeated s.toList n)) safe)
  | _, _, some n, .list xs => .ok (.list (repeated xs n))
  | _, _, some n, .tuple xs => .ok (.tuple (repeated xs n))
  | v, _, _, w => .error (.operands "*" v.typeName w.typeName)

def arithmetic (op : Arithmetic) (v w : Value) : Outcome Value := do
  let v ← v.present
  let w ← w.present
  match v.number?, w.number? with
  | some a, some b => calculate op a b
  | _, _ =>
    match op with
    | .add => sum v w
    | .mul => times v w
    | op => throw (.operands op.sign v.typeName w.typeName)

def negated (v : Value) : Outcome Value := do
  match (← v.present).number? with
  | some (.inl n) => return .int (-n)
  | some (.inr x) => return .real x.neg
  | Option.none => throw (.operand "-" v.typeName)

def unchanged (v : Value) : Outcome Value := do
  match (← v.present).number? with
  | some (.inl n) => return .int n
  | some (.inr x) => return .real x
  | Option.none => throw (.operand "+" v.typeName)

def compareNumbers (a b : Int ⊕ Binary64) : Option Ordering :=
  match a, b with
  | .inl m, .inl n => some (compare m n)
  | .inl m, .inr y => (y.compareRatio m 1).map Ordering.swap
  | .inr x, .inl n => x.compareRatio n 1
  | .inr x, .inr y => x.compare? y

mutual

/-- Equality. Numbers are equal by value, and a safe text is equal to the same
text that is not. Items are compared up to the first that differ, and a value
that is strictly absent cannot be compared. -/
def equal : Value → Value → Outcome Bool
  | .absent true why, _ => .error (.absent why)
  | _, .absent true why => .error (.absent why)
  | .list xs, .list ys => if xs.length = ys.length then equalItems xs ys else .ok false
  | .tuple xs, .tuple ys => if xs.length = ys.length then equalItems xs ys else .ok false
  | .record ps, .record qs => if ps.length = qs.length then equalPairs ps qs else .ok false
  | v, w => .ok (sameKey v w)

def equalItems : List Value → List Value → Outcome Bool
  | x :: xs, y :: ys => do if ← equal x y then equalItems xs ys else return false
  | _, _ => .ok true

def equalPairs : List (Value × Value) → List (Value × Value) → Outcome Bool
  | [], _ => .ok true
  | (k, v) :: r, qs =>
    match lookup? k qs with
    | some w => do if ← equal v w then equalPairs r qs else return false
    | Option.none => .ok false

end

mutual

/-- The order of two values, if they have one. Lists are ordered by the first
items that differ. -/
def order (op : String) : Value → Value → Outcome (Option Ordering)
  | .text a _, .text b _ => .ok (some (compareOfLessAndEq a b))
  | .list xs, .list ys => orderItems op xs ys
  | .tuple xs, .tuple ys => orderItems op xs ys
  | v, w =>
    match v.number?, w.number? with
    | some a, some b => .ok (compareNumbers a b)
    | _, _ => .error (.unordered op v.typeName w.typeName)

def orderItems (op : String) : List Value → List Value → Outcome (Option Ordering)
  | [], [] => .ok (some .eq)
  | [], _ => .ok (some .lt)
  | _, [] => .ok (some .gt)
  | x :: xs, y :: ys => do if ← equal x y then orderItems op xs ys else order op x y

end

/-- Whether a value is in another one. -/
def isIn (v w : Value) : Outcome Bool :=
  match w with
  | .text s _ =>
    match v with
    | .text t _ => .ok (occurs t.toList s.toList)
    | v => .error (.notTextIn v.typeName)
  | .record pairs => do
    if let .absent true why := v then throw (.absent why)
    if v.isHashable then return (lookup? v pairs).isSome
    else throw (.misuse (.notHashable v.typeName))
  | .list items => items.anyM (equal v)
  | .tuple items => items.anyM (equal v)
  | .absent true why => .error (.absent why)
  | .absent false _ => .ok false
  | .template _ => .error (.misuse (.missingKey "0"))
  | w => .error (.noContainer w.typeName)
where
  occurs (t : List Char) : List Char → Bool
    | [] => t.isEmpty
    | c :: r => t.isPrefixOf (c :: r) || occurs t r

def ordered (sign : String) (v w : Value) (ok : Ordering → Bool) : Outcome Bool := do
  let v ← v.present
  let w ← w.present
  return ((← order sign v w).map ok).getD false

def holds (op : Comparison) (v w : Value) : Outcome Bool :=
  match op with
  | .eq => equal v w
  | .ne => (equal v w).map not
  | .lt => ordered "<" v w (· == .lt)
  | .le => ordered "<=" v w (· != .gt)
  | .gt => ordered ">" v w (· == .gt)
  | .ge => ordered ">=" v w (· != .lt)
  | .within => isIn v w
  | .notWithin => (isIn v w).map not

/-- Texts of values one behind the other. With escaping on, all that follows a
safe text is made safe as well, and so is what came before it. -/
def joinedTexts (escaping : Bool) (vs : List Value) : Outcome Value := do
  if escaping && vs.any isSafe then
    return .text (String.join (← vs.mapM escaped)) true
  else return plain (String.join (← vs.mapM display))

end Value
end UmlPress.Template
