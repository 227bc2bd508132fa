import Mathlib.Algebra.Field.Rat
import UmlPress.Proofs.Index

/-!
# Keys

What a key finds depends on its mark alone: a text by its characters, a number
by its value whatever its type. So to be the same key is an equivalence, and
two keys of one mark find the same entries.
-/
namespace UmlPress

inductive Mark where
  | null
  | text (s : String)
  | number (q : ℚ)
  | infinite (negative : Bool)
  | nan

namespace Binary64

def mark : Binary64 → Mark
  | .nan => .nan
  | .infinity negative => .infinite negative
  | .finite negative m e =>
    let (num, den) := ratio m e
    .number ((if negative then -(num : Int) else num : Int) / den)

theorem mark_ne_null (x : Binary64) : x.mark ≠ .null := by cases x <;> simp [mark]

theorem mark_ne_text (x : Binary64) (s : String) : x.mark ≠ .text s := by cases x <;> simp [mark]

theorem denominator_pos (m : Nat) (e : Int) : 0 < (ratio m e).2 := by
  unfold ratio
  split
  · exact Nat.one_pos
  · exact Nat.pow_pos Nat.two_pos

/-- A finite number is a fraction with a positive denominator. -/
theorem fraction_finite (negative : Bool) (m : Nat) (e : Int) : ∃ num : Int, ∃ den : Nat, 0 < den ∧
    (finite negative m e).fraction? = some (num, den) ∧
    (finite negative m e).mark = .number (num / den) :=
  ⟨if negative then -((ratio m e).1 : Int) else (ratio m e).1, (ratio m e).2,
    denominator_pos m e, rfl, rfl⟩

theorem compareRatio_finite (negative : Bool) (m : Nat) (e num : Int) (den : Nat) :
    (finite negative m e).compareRatio num den =
      (finite negative m e).fraction?.map fun (a, b) => compare (a * den) (num * b) := rfl

theorem compare_finite (negative negative' : Bool) (m m' : Nat) (e e' : Int) :
    (finite negative m e).compare? (finite negative' m' e') =
      (finite negative' m' e').fraction?.bind fun (c, d) =>
        (finite negative m e).compareRatio c d := rfl

theorem compare_eq_iff {a c : Int} {b d : Nat} (hb : 0 < b) (hd : 0 < d) :
    compare (a * d) (c * b) = .eq ↔ (a : ℚ) / b = (c : ℚ) / d := by
  have hb : (b : ℚ) ≠ 0 := Nat.cast_ne_zero.2 (Nat.ne_of_gt hb)
  have hd : (d : ℚ) ≠ 0 := Nat.cast_ne_zero.2 (Nat.ne_of_gt hd)
  rw [compare_eq_iff_eq, div_eq_div_iff hb hd]
  exact_mod_cast Iff.rfl

theorem compareRatio_iff (x : Binary64) (n : Int) :
    x.compareRatio n 1 = some .eq ↔ x.mark = .number n := by
  cases x with
  | nan => simp [compareRatio, mark]
  | infinity negative => cases negative <;> simp [compareRatio, mark]
  | finite negative m e =>
    obtain ⟨num, den, hden, hfraction, hmark⟩ := fraction_finite negative m e
    have hvalue := compare_eq_iff (a := num) (c := n) hden Nat.one_pos
    rw [Nat.cast_one, Nat.cast_one, div_one] at hvalue
    rw [compareRatio_finite, hfraction, hmark, Option.map_some, Option.some.injEq,
      Mark.number.injEq]
    exact hvalue

/-- Nothing compares with a NaN; all other numbers compare by their marks. -/
theorem compare_iff {x y : Binary64} (hx : x ≠ .nan) :
    x.compare? y = some .eq ↔ x.mark = y.mark := by
  cases x with
  | nan => exact absurd rfl hx
  | infinity a =>
    cases y with
    | nan => simp [compare?, mark]
    | infinity b => cases a <;> cases b <;> simp [compare?, mark]
    | finite negative m e =>
      obtain ⟨num, den, -, hfraction, -⟩ := fraction_finite negative m e
      cases a <;> simp [compare?, hfraction, compareRatio, mark]
  | finite negative m e =>
    obtain ⟨num, den, hden, hfraction, hmark⟩ := fraction_finite negative m e
    cases y with
    | nan => simp [compare?, mark]
    | infinity b => cases b <;> simp [compare?, mark]
    | finite negative' m' e' =>
      obtain ⟨num', den', hden', hfraction', hmark'⟩ := fraction_finite negative' m' e'
      rw [compare_finite, hfraction', Option.bind_some]
      dsimp only
      rw [compareRatio_finite, hfraction, hmark, hmark', Option.map_some, Option.some.injEq,
        Mark.number.injEq]
      exact compare_eq_iff hden hden'

end Binary64

namespace Json

def numberMark : Int ⊕ Binary64 → Mark
  | .inl n => .number n
  | .inr x => x.mark

def mark? : Json → Option Mark
  | .null => some .null
  | .bool b => some (.number (if b then 1 else 0 : Int))
  | .int n => some (.number n)
  | .real x => some x.mark
  | .text s => some (.text s)
  | _ => none

theorem mark?_of_number? {a : Json} {u : Int ⊕ Binary64} (h : a.number? = some u) :
    a.mark? = some (numberMark u) := by
  cases a with
  | bool b => cases h; rfl
  | int n => cases h; rfl
  | real x => cases h; rfl
  | _ => cases h

/-- A number is marked as neither nothing nor a text. -/
theorem numberMark_ne (u : Int ⊕ Binary64) :
    numberMark u ≠ .null ∧ ∀ s, numberMark u ≠ .text s := by
  rcases u with n | x
  · simp [numberMark]
  · exact ⟨x.mark_ne_null, x.mark_ne_text⟩

theorem sameNumber_iff {u v : Int ⊕ Binary64} (h : u ≠ .inr .nan) :
    sameNumber u v = true ↔ numberMark u = numberMark v := by
  rcases u with a | x <;> rcases v with b | y
  · simp [sameNumber, numberMark]
  · simpa [sameNumber, numberMark, eq_comm] using y.compareRatio_iff a
  · simpa [sameNumber, numberMark] using x.compareRatio_iff b
  · simpa [sameNumber, numberMark] using
      Binary64.compare_iff (x := x) (y := y) fun hx => h (by rw [hx])

theorem numberEquals_iff {u : Int ⊕ Binary64} {b : Json} (h : u ≠ .inr .nan)
    (hb : b.isKey = true) : equals.numberEquals u b = true ↔ some (numberMark u) = b.mark? := by
  unfold equals.numberEquals
  cases hv : b.number? with
  | some v => rw [mark?_of_number? hv, Option.some.injEq, ← sameNumber_iff h]
  | none =>
    have hmark := numberMark_ne u
    cases b <;> simp_all [number?, mark?, isKey]

/-- Two keys are the same if their marks are. -/
theorem sameKey_iff {a b : Json} (ha : a.isKey = true) (hb : b.isKey = true) :
    a.sameKey b = true ↔ a.mark? = b.mark? := by
  by_cases hnan : a = .real .nan
  · subst hnan
    cases b with
    | real y => cases y <;> simp [sameKey, equals, equals.numberEquals, number?, sameNumber,
        Binary64.compare?, mark?, Binary64.mark]
    | list items => cases hb
    | object entries => cases hb
    | _ => simp [sameKey, equals, equals.numberEquals, number?, sameNumber,
        Binary64.compareRatio, mark?, Binary64.mark]
  · have hequals : a.sameKey b = a.equals b := by
      unfold sameKey
      split
      · exact absurd rfl hnan
      · rfl
    rw [hequals]
    cases a with
    | null => cases b <;> simp [equals, mark?, (Binary64.mark_ne_null _).symm]
    | text s => cases b <;> simp [equals, mark?, (Binary64.mark_ne_text _ _).symm]
    | bool c => exact numberEquals_iff (by simp) hb
    | int n => exact numberEquals_iff (by simp) hb
    | real x => exact numberEquals_iff (fun h => hnan (by rw [Sum.inr.inj h])) hb
    | list items => cases ha
    | object entries => cases ha

/-- A text is the same key as itself alone. -/
theorem sameKey_text_iff {k : Json} {key : String} :
    k.sameKey (.text key) = true ↔ k = .text key := by
  cases k <;> simp [sameKey, equals, equals.numberEquals, number?]

theorem text_sameKey_iff {k : Json} {key : String} :
    (text key).sameKey k = true ↔ k = .text key := by
  cases k <;> simp [sameKey, equals, eq_comm]

theorem sameKey_comm {a b : Json} (ha : a.isKey = true) (hb : b.isKey = true) :
    a.sameKey b = b.sameKey a := by
  rw [Bool.eq_iff_iff, sameKey_iff ha hb, sameKey_iff hb ha, eq_comm]

/-- A key that is the same as another one is the same as just what that one is
the same as. -/
theorem sameKey_congr {a b c : Json} (ha : a.isKey = true) (hb : b.isKey = true)
    (hc : c.isKey = true) (h : a.sameKey b = true) : a.sameKey c = b.sameKey c := by
  rw [Bool.eq_iff_iff, sameKey_iff ha hc, sameKey_iff hb hc, (sameKey_iff ha hb).1 h]

/-- The marks of keys differ if no two keys are the same. -/
theorem nodup_marks {keys : List Json} (h : ∀ v ∈ keys, v.isKey = true) :
    (keys.map mark?).Nodup ↔ keys.Pairwise fun a b => a.sameKey b = false := by
  rw [List.Nodup, List.pairwise_map]
  refine List.Pairwise.iff_of_mem fun {a b} ha hb => ?_
  rw [ne_eq, ← sameKey_iff (h a ha) (h b hb), Bool.not_eq_true]

end Json
end UmlPress
