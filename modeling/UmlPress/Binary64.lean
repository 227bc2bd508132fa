/-!
# Double precision numbers

A finite number is a signed multiple of a power of two. All arithmetic is done
on exact fractions and rounded once, to the nearest number and to an even
mantissa on a tie. A number is written with the fewest digits that read back
as the same number.
-/
namespace UmlPress

/-- Finite numbers are kept in one form: the mantissa is below `2 ^ 53`, and
at least `2 ^ 52` unless the exponent is `-1074`. -/
inductive Binary64 where
  | nan
  | infinity (negative : Bool)
  | finite (negative : Bool) (mantissa : Nat) (exponent : Int)
  deriving DecidableEq, Repr, Inhabited

namespace Binary64

def zero (negative : Bool) : Binary64 := .finite negative 0 (-1074)

/-- A positive fraction to the nearest whole number, ties to even. -/
def roundHalfEven (num den : Nat) : Nat :=
  let q := num / den
  let r := num % den
  if 2 * r < den then q else if den < 2 * r then q + 1 else q + q % 2

/-- `num / den` in units of `2 ^ exponent`, rounded. -/
def inUnits (num den : Nat) (exponent : Int) : Nat :=
  if 0 ≤ exponent then roundHalfEven num (den * Nat.pow 2 exponent.toNat)
  else roundHalfEven (num * Nat.pow 2 (-exponent).toNat) den

/-- The largest power of two that is at most `num / den`. -/
def magnitude (num den : Nat) : Int :=
  let e : Int := (Nat.log2 num : Int) - Nat.log2 den
  let fits := if 0 ≤ e then den * Nat.pow 2 e.toNat ≤ num else den ≤ num * Nat.pow 2 (-e).toNat
  if fits then e else e - 1

/-- The number nearest to a fraction. -/
def ofRatio (negative : Bool) (num den : Nat) : Binary64 :=
  if num = 0 then zero negative
  else
    let unit := max (magnitude num den - 52) (-1074)
    let m := inUnits num den unit
    let (m, unit) := if m = Nat.pow 2 53 then (Nat.pow 2 52, unit + 1) else (m, unit)
    if 971 < unit then .infinity negative else .finite negative m unit

/-- The number nearest to `digits * 10 ^ exponent`. Far outside the range of
the type the power of ten is not computed. -/
def ofDecimal (negative : Bool) (digits : Nat) (exponent : Int) : Binary64 :=
  let size : Int := (Nat.toDigits 10 digits).length + exponent
  if digits = 0 ∨ size < -400 then zero negative
  else if 400 < size then .infinity negative
  else if 0 ≤ exponent then ofRatio negative (digits * Nat.pow 10 exponent.toNat) 1
  else ofRatio negative digits (Nat.pow 10 (-exponent).toNat)

def ofInt (n : Int) : Binary64 := ofRatio (n < 0) n.natAbs 1

/-- Numerator and denominator of a finite number without its sign. -/
def ratio (mantissa : Nat) (exponent : Int) : Nat × Nat :=
  if 0 ≤ exponent then (mantissa * Nat.pow 2 exponent.toNat, 1)
  else (mantissa, Nat.pow 2 (-exponent).toNat)

/-- A signed fraction, unless the number is not finite. -/
def fraction? : Binary64 → Option (Int × Nat)
  | .finite negative m e =>
    let (num, den) := ratio m e
    some (if negative then -(num : Int) else num, den)
  | _ => none

def isNegative : Binary64 → Bool
  | .nan => false
  | .infinity n => n
  | .finite n _ _ => n

def neg : Binary64 → Binary64
  | .nan => .nan
  | .infinity n => .infinity !n
  | .finite n m e => .finite (!n) m e

def isZero : Binary64 → Bool
  | .finite _ m _ => m = 0
  | _ => false

def ofSignedRatio (num : Int) (den : Nat) : Binary64 :=
  ofRatio (num < 0) num.natAbs den

/-- A sum of zero is negative only if both terms are. -/
def add (x y : Binary64) : Binary64 :=
  match x, y with
  | .nan, _ => .nan
  | _, .nan => .nan
  | .infinity a, .infinity b => if a = b then .infinity a else .nan
  | .infinity a, _ => .infinity a
  | _, .infinity b => .infinity b
  | x, y =>
    match x.fraction?, y.fraction? with
    | some (a, b), some (c, d) =>
      if a = 0 ∧ c = 0 then zero (x.isNegative && y.isNegative)
      else ofSignedRatio (a * d + c * b) (b * d)
    | _, _ => .nan

/-- Order of a number and a fraction; nothing is ordered with a NaN. -/
def compareRatio (x : Binary64) (num : Int) (den : Nat) : Option Ordering :=
  match x with
  | .nan => none
  | .infinity negative => some (if negative then .lt else .gt)
  | x => x.fraction?.map fun (a, b) => compare (a * den) (num * b)

def compare? (x y : Binary64) : Option Ordering :=
  match x, y with
  | .nan, _ => none
  | _, .nan => none
  | .infinity a, .infinity b => some (compare b.toNat a.toNat)
  | _, .infinity negative => some (if negative then .gt else .lt)
  | x, y => y.fraction?.bind fun (c, d) => x.compareRatio c d

/-- The least `k` with `num / den < 10 ^ k`, found from the number of digits. -/
def decimalPoint (num den : Nat) : Int :=
  let guess : Int := (Nat.toDigits 10 num).length - (Nat.toDigits 10 den).length
  let below (k : Int) : Bool :=
    if 0 ≤ k then num < den * Nat.pow 10 k.toNat else num * Nat.pow 10 (-k).toNat < den
  if below guess then guess else if below (guess + 1) then guess + 1 else guess + 2

/-- The two multiples of `10 ^ exponent` around a fraction, as factors; the
distance to the lower one is `rest / step` of a unit. -/
def neighbours (num den : Nat) (exponent : Int) : Nat × Nat × Nat :=
  let (num, step) :=
    if 0 ≤ exponent then (num, den * Nat.pow 10 exponent.toNat)
    else (num * Nat.pow 10 (-exponent).toNat, den)
  (num / step, num % step, step)

/-- Digits on the grid of `10 ^ exponent` that read back as the number, the
nearer ones if both neighbours do, and of two equally near ones the even. -/
def digitsOn? (mantissa : Nat) (binary : Int) (exponent : Int) : Option Nat :=
  let (num, den) := ratio mantissa binary
  let (low, rest, step) := neighbours num den exponent
  let reads (d : Nat) : Bool := ofDecimal false d exponent = .finite false mantissa binary
  if reads low then
    if reads (low + 1) && decide (step < 2 * rest + low % 2) then some (low + 1) else some low
  else if reads (low + 1) then some (low + 1)
  else none

/-- Digits and the exponent of their last one, on the coarsest grid that has a
point reading back. -/
def shortestFrom (mantissa : Nat) (binary : Int) (point : Int) : Nat → Nat → Nat × Int
  | _, 0 => (0, 0)
  | n, fuel + 1 =>
    match digitsOn? mantissa binary (point - n) with
    | some d => (d, point - n)
    | none => shortestFrom mantissa binary point (n + 1) fuel

/-- Decimal digits without zeros at the end, and the place of the point. -/
def shortest (mantissa : Nat) (binary : Int) : List Char × Int :=
  let (num, den) := ratio mantissa binary
  let (d, e) := shortestFrom mantissa binary (decimalPoint num den) 1 17
  let digits := Nat.toDigits 10 d
  let kept := (digits.reverse.dropWhile (· == '0')).reverse
  (kept, digits.length + e)

def exponentText (e : Int) : List Char :=
  let digits := Nat.toDigits 10 e.natAbs
  (if e < 0 then '-' else '+') :: (if digits.length < 2 then '0' :: digits else digits)

/-- Digits with their point after the first `point` of them: written out from
four zeros behind the point up to sixteen digits before it, with an exponent
otherwise. -/
def layout (digits : List Char) (point : Int) : List Char :=
  if -4 < point ∧ point ≤ 16 then
    if point ≤ 0 then
      '0' :: '.' :: (List.replicate (-point).toNat '0' ++ digits)
    else
      let whole := digits.take point.toNat
      let part := digits.drop point.toNat
      whole ++ List.replicate (point.toNat - whole.length) '0' ++
        '.' :: (if part.isEmpty then ['0'] else part)
  else
    digits.take 1 ++ (if digits.length ≤ 1 then [] else '.' :: digits.drop 1) ++
      'e' :: exponentText (point - 1)

def chars : Binary64 → List Char
  | .nan => ['n', 'a', 'n']
  | .infinity negative => (if negative then ['-'] else []) ++ ['i', 'n', 'f']
  | .finite negative m e =>
    (if negative then ['-'] else []) ++
      (if m = 0 then ['0', '.', '0']
      else
        let (digits, point) := shortest m e
        layout digits point)

def text (x : Binary64) : String := .ofList x.chars

end Binary64
end UmlPress
