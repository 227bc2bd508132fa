import Mathlib.Algebra.Order.Field.Power
import Mathlib.Data.Rat.Cast.Order
import Mathlib.Tactic.FieldSimp
import Mathlib.Tactic.Linarith
import Mathlib.Tactic.NormNum
import Mathlib.Tactic.Positivity
import Mathlib.Tactic.Push
import Mathlib.Tactic.Ring
import UmlPress.Binary64

/-!
# Rounding to double precision

The number nearest to a fraction depends on the value of the fraction alone, it is in
the one form that numbers are kept in, and a fraction that is closer to a number than half
the distance to the next one on its side is rounded to it.
-/
namespace UmlPress.Binary64
variable {num den num' den' n : Nat} {e : Int} {q : ℚ}

def isNormal : Binary64 → Bool
  | .finite _ m e =>
    decide (m < 2 ^ 53) && decide (-1074 ≤ e) && decide (e ≤ 971) &&
      (decide (2 ^ 52 ≤ m) || decide (e = -1074))
  | _ => true

theorem isNormal_finite {negative : Bool} {m : Nat} : (finite negative m e).isNormal = true ↔
    m < 2 ^ 53 ∧ -1074 ≤ e ∧ e ≤ 971 ∧ (2 ^ 52 ≤ m ∨ e = -1074) := by
  simp only [isNormal, Bool.and_eq_true, Bool.or_eq_true, decide_eq_true_eq, and_assoc]

/-! Whole numbers. -/

theorem roundHalfEven_mul {c : Nat} (hc : 0 < c) (num den : Nat) :
    roundHalfEven (num * c) (den * c) = roundHalfEven num den := by
  have hlow : 2 * (num % den * c) < den * c ↔ 2 * (num % den) < den := by
    rw [← Nat.mul_assoc]
    exact Nat.mul_lt_mul_right hc
  have hhigh : den * c < 2 * (num % den * c) ↔ den < 2 * (num % den) := by
    rw [← Nat.mul_assoc]
    exact Nat.mul_lt_mul_right hc
  unfold roundHalfEven
  rw [Nat.mul_div_mul_right _ _ hc, Nat.mul_mod_mul_right]
  simp only [hlow, hhigh]

theorem cross (hden : 0 < den) (hden' : 0 < den') (h : (num : ℚ) / den = num' / den') :
    num * den' = num' * den := by
  rw [div_eq_div_iff (by positivity) (by positivity)] at h
  exact_mod_cast h

theorem roundHalfEven_congr (hden : 0 < den) (hden' : 0 < den')
    (h : (num : ℚ) / den = num' / den') : roundHalfEven num den = roundHalfEven num' den' := by
  rw [← roundHalfEven_mul hden' num den, ← roundHalfEven_mul hden num' den', cross hden hden' h,
    Nat.mul_comm den den']

theorem roundHalfEven_le (hden : 0 < den) (h : (num : ℚ) / den ≤ n) :
    roundHalfEven num den ≤ n := by
  rw [div_le_iff₀ (by positivity)] at h
  have h : num ≤ n * den := by exact_mod_cast h
  have hq : num / den ≤ n := Nat.div_le_of_le_mul (by rwa [Nat.mul_comm])
  have hdiv := Nat.div_add_mod num den
  unfold roundHalfEven
  dsimp only
  by_cases heq : num / den = n
  · -- The fraction is the whole number itself, so nothing is left over.
    rw [heq, Nat.mul_comm] at hdiv
    rw [if_pos (by omega), heq]
  · split
    · exact hq
    · split
      · omega
      · omega

theorem le_roundHalfEven (hden : 0 < den) (h : n ≤ (num : ℚ) / den) :
    n ≤ roundHalfEven num den := by
  rw [le_div_iff₀ (by positivity)] at h
  have h : n * den ≤ num := by exact_mod_cast h
  have hq : n ≤ num / den := (Nat.le_div_iff_mul_le hden).2 h
  unfold roundHalfEven
  dsimp only
  split
  · exact hq
  · split
    · omega
    · omega

theorem roundHalfEven_eq (hden : 0 < den) (h : |(num : ℚ) / den - n| < 1 / 2) :
    roundHalfEven num den = n := by
  obtain ⟨hlow, hhigh⟩ := abs_lt.1 h
  have hpos : (0 : ℚ) < den := by positivity
  have hlow : (n : ℚ) * (2 * den) < 2 * num + den := by
    have : (n : ℚ) - 1 / 2 < num / den := by linarith
    rw [lt_div_iff₀ hpos] at this
    linarith
  have hhigh : (2 : ℚ) * num < n * (2 * den) + den := by
    have : (num : ℚ) / den < n + 1 / 2 := by linarith
    rw [div_lt_iff₀ hpos] at this
    linarith
  have hlow : n * (2 * den) < 2 * num + den := by exact_mod_cast hlow
  have hhigh : 2 * num < n * (2 * den) + den := by exact_mod_cast hhigh
  have hdiv := Nat.div_add_mod num den
  have hmod := Nat.mod_lt num hden
  unfold roundHalfEven
  dsimp only
  generalize num / den = q at hdiv ⊢
  generalize num % den = r at hdiv hmod ⊢
  -- The quotient is the whole number or the one below it.
  have hle : q ≤ n := by
    by_contra hnot
    have : (n + 1) * den ≤ q * den := Nat.mul_le_mul_right _ (by omega)
    nlinarith
  have hge : n ≤ q + 1 := by
    by_contra hnot
    have : (q + 2) * den ≤ n * den := Nat.mul_le_mul_right _ (by omega)
    nlinarith
  rcases Nat.lt_or_ge q n with hlt | hge'
  · obtain rfl : n = q + 1 := by omega
    have hr : den < 2 * r := by nlinarith
    rw [if_neg (by omega), if_pos hr]
  · obtain rfl : n = q := by omega
    have hr : 2 * r < den := by nlinarith
    rw [if_pos hr]

/-! Units. -/

theorem natPow_eq (b k : Nat) : Nat.pow b k = b ^ k := rfl

theorem cast_pow_toNat (b : Nat) (he : 0 ≤ e) : ((b ^ e.toNat : Nat) : ℚ) = (b : ℚ) ^ e := by
  obtain ⟨k, rfl⟩ := Int.eq_ofNat_of_zero_le he
  simp

theorem cast_pow_toNat_neg (b : Nat) (he : ¬0 ≤ e) :
    ((b ^ (-e).toNat : Nat) : ℚ) = ((b : ℚ) ^ e)⁻¹ := by
  rw [cast_pow_toNat b (by omega), zpow_neg]

/-- In units of a power of two a fraction is another fraction. -/
theorem exists_inUnits (hden : 0 < den) (num : Nat) (e : Int) : ∃ a b : Nat, 0 < b ∧
    (a : ℚ) / b = num / den / 2 ^ e ∧ inUnits num den e = roundHalfEven a b := by
  unfold inUnits
  split
  · rename_i he
    refine ⟨num, den * 2 ^ e.toNat, by positivity, ?_, rfl⟩
    rw [Nat.cast_mul, cast_pow_toNat 2 he, Nat.cast_two, div_div]
  · rename_i he
    refine ⟨num * 2 ^ (-e).toNat, den, hden, ?_, rfl⟩
    rw [Nat.cast_mul, cast_pow_toNat_neg 2 he, Nat.cast_two]
    field_simp

theorem inUnits_congr (hden : 0 < den) (hden' : 0 < den') (h : (num : ℚ) / den = num' / den')
    (e : Int) : inUnits num den e = inUnits num' den' e := by
  obtain ⟨a, b, hb, hvalue, hround⟩ := exists_inUnits hden num e
  obtain ⟨a', b', hb', hvalue', hround'⟩ := exists_inUnits hden' num' e
  rw [hround, hround', roundHalfEven_congr hb hb' (by rw [hvalue, hvalue', h])]

theorem inUnits_le (hden : 0 < den) (h : (num : ℚ) / den ≤ n * 2 ^ e) : inUnits num den e ≤ n := by
  obtain ⟨a, b, hb, hvalue, hround⟩ := exists_inUnits hden num e
  rw [hround]
  refine roundHalfEven_le hb ?_
  rw [hvalue, div_le_iff₀ (by positivity)]
  exact h

theorem le_inUnits (hden : 0 < den) (h : n * 2 ^ e ≤ (num : ℚ) / den) : n ≤ inUnits num den e := by
  obtain ⟨a, b, hb, hvalue, hround⟩ := exists_inUnits hden num e
  rw [hround]
  refine le_roundHalfEven hb ?_
  rw [hvalue, le_div_iff₀ (by positivity)]
  exact h

theorem inUnits_eq (hden : 0 < den) (h : |(num : ℚ) / den - n * 2 ^ e| < 2 ^ e / 2) :
    inUnits num den e = n := by
  obtain ⟨a, b, hb, hvalue, hround⟩ := exists_inUnits hden num e
  rw [hround]
  refine roundHalfEven_eq hb ?_
  have hpos : (0 : ℚ) < 2 ^ e := by positivity
  have hdiff : (a : ℚ) / b - n = (num / den - n * 2 ^ e) / 2 ^ e := by
    rw [hvalue]
    field_simp
  rw [hdiff, abs_div, abs_of_pos hpos, div_lt_iff₀ hpos]
  linarith

/-! Magnitudes. -/

theorem cast_le_cast_iff_fits (hden : 0 < den) (num : Nat) (e : Int) :
    (if 0 ≤ e then den * Nat.pow 2 e.toNat ≤ num else den ≤ num * Nat.pow 2 (-e).toNat) ↔
      (2 : ℚ) ^ e ≤ num / den := by
  have hpos : (0 : ℚ) < den := by positivity
  rw [le_div_iff₀ hpos]
  split
  · rename_i he
    rw [natPow_eq, ← Nat.cast_le (α := ℚ), Nat.cast_mul, cast_pow_toNat 2 he, Nat.cast_two,
      mul_comm]
  · rename_i he
    rw [natPow_eq, ← Nat.cast_le (α := ℚ), Nat.cast_mul, cast_pow_toNat_neg 2 he, Nat.cast_two,
      ← div_eq_mul_inv, le_div_iff₀ (by positivity), mul_comm]

/-- A positive fraction lies between two powers of two. -/
theorem magnitude_spec (hnum : 0 < num) (hden : 0 < den) :
    (2 : ℚ) ^ magnitude num den ≤ num / den ∧
      (num : ℚ) / den < 2 ^ (magnitude num den + 1) := by
  have hn : (2 : ℚ) ^ (Nat.log2 num : Int) ≤ num := by
    rw [zpow_natCast]
    exact_mod_cast Nat.log2_self_le (by omega)
  have hn' : (num : ℚ) < 2 ^ ((Nat.log2 num : Int) + 1) := by
    rw [← Nat.cast_succ, zpow_natCast]
    exact_mod_cast Nat.lt_log2_self
  have hd : (2 : ℚ) ^ (Nat.log2 den : Int) ≤ den := by
    rw [zpow_natCast]
    exact_mod_cast Nat.log2_self_le (by omega)
  have hd' : (den : ℚ) < 2 ^ ((Nat.log2 den : Int) + 1) := by
    rw [← Nat.cast_succ, zpow_natCast]
    exact_mod_cast Nat.lt_log2_self
  have hpos : (0 : ℚ) < den := by positivity
  have hfits := cast_le_cast_iff_fits hden num ((Nat.log2 num : Int) - Nat.log2 den)
  unfold magnitude
  dsimp only
  generalize (Nat.log2 num : Int) = a at *
  generalize (Nat.log2 den : Int) = b at *
  have hupper : (num : ℚ) / den < 2 ^ (a - b + 1) := by
    rw [div_lt_iff₀ hpos]
    calc (num : ℚ) < 2 ^ (a + 1) := hn'
      _ = 2 ^ (a - b + 1) * 2 ^ b := by rw [← zpow_add₀ two_ne_zero]; congr 1; ring
      _ ≤ 2 ^ (a - b + 1) * den := by gcongr
  have hlower : (2 : ℚ) ^ (a - b - 1) ≤ num / den := by
    rw [le_div_iff₀ hpos]
    calc (2 : ℚ) ^ (a - b - 1) * den ≤ 2 ^ (a - b - 1) * 2 ^ (b + 1) := by gcongr
      _ = 2 ^ a := by rw [← zpow_add₀ two_ne_zero]; congr 1; ring
      _ ≤ num := hn
  by_cases h : (2 : ℚ) ^ (a - b) ≤ num / den
  · rw [if_pos (by simpa using hfits.2 h)]
    exact ⟨h, hupper⟩
  · rw [if_neg (by simpa using fun hf => h (hfits.1 hf)), sub_add_cancel]
    exact ⟨hlower, not_le.1 h⟩

theorem magnitude_eq (hnum : 0 < num) (hden : 0 < den) (hlow : (2 : ℚ) ^ e ≤ num / den)
    (hhigh : (num : ℚ) / den < 2 ^ (e + 1)) : magnitude num den = e := by
  obtain ⟨hle, hlt⟩ := magnitude_spec hnum hden
  have h := (zpow_lt_zpow_iff_right₀ (one_lt_two (α := ℚ))).1 (hlow.trans_lt hlt)
  have h' := (zpow_lt_zpow_iff_right₀ (one_lt_two (α := ℚ))).1 (hle.trans_lt hhigh)
  omega

theorem magnitude_lt (hnum : 0 < num) (hden : 0 < den) (h : (num : ℚ) / den < 2 ^ e) :
    magnitude num den < e :=
  (zpow_lt_zpow_iff_right₀ (one_lt_two (α := ℚ))).1 ((magnitude_spec hnum hden).1.trans_lt h)

theorem magnitude_congr (hnum : 0 < num) (hden : 0 < den) (hden' : 0 < den')
    (h : (num : ℚ) / den = num' / den') : magnitude num den = magnitude num' den' := by
  have hnum' : 0 < num' := by
    have hpos : (0 : ℚ) < num' / den' := h ▸ by positivity
    exact_mod_cast (div_pos_iff_of_pos_right (by positivity)).1 hpos
  obtain ⟨hle, hlt⟩ := magnitude_spec hnum' hden'
  rw [← h] at hle hlt
  exact magnitude_eq hnum hden hle hlt

/-! The nearest number. -/

def unitOf (num den : Nat) : Int := max (magnitude num den - 52) (-1074)

def ofUnits (negative : Bool) (m : Nat) (unit : Int) : Binary64 :=
  if m = 2 ^ 53 then if 971 < unit + 1 then .infinity negative else .finite negative (2 ^ 52) (unit + 1)
  else if 971 < unit then .infinity negative else .finite negative m unit

theorem ofRatio_eq (negative : Bool) (hnum : num ≠ 0) (den : Nat) : ofRatio negative num den =
    ofUnits negative (inUnits num den (unitOf num den)) (unitOf num den) := by
  have hcarry : (Nat.pow 2 53 : Nat) = 2 ^ 53 := rfl
  rw [ofRatio, if_neg hnum, ofUnits, unitOf, hcarry]
  by_cases h : inUnits num den (max (magnitude num den - 52) (-1074)) = 2 ^ 53
  · rw [if_pos h]
    simp only [h, if_true]
    rfl
  · rw [if_neg h]
    simp only [h, if_false]

/-- Fractions of one value are rounded to one number. -/
theorem ofRatio_congr (negative : Bool) (hden : 0 < den) (hden' : 0 < den')
    (h : (num : ℚ) / den = num' / den') : ofRatio negative num den = ofRatio negative num' den' := by
  have hcross := cross hden hden' h
  by_cases hnum : num = 0
  · obtain rfl : num' = 0 := by
      rw [hnum, Nat.zero_mul] at hcross
      exact (Nat.mul_eq_zero.1 hcross.symm).resolve_right (by omega)
    rw [hnum, ofRatio, ofRatio, if_pos rfl, if_pos rfl]
  · have hnum' : num' ≠ 0 := by
      rintro rfl
      rw [Nat.zero_mul] at hcross
      exact (Nat.mul_eq_zero.1 hcross).elim hnum (by omega)
    have hunit : unitOf num den = unitOf num' den' := by
      rw [unitOf, unitOf, magnitude_congr (Nat.pos_of_ne_zero hnum) hden hden' h]
    rw [ofRatio_eq negative hnum, ofRatio_eq negative hnum', hunit, inUnits_congr hden hden' h]

theorem isNormal_zero (negative : Bool) : (zero negative).isNormal = true := by
  rw [zero, isNormal_finite]
  decide

/-- What a fraction is rounded to is in the one form. -/
theorem isNormal_ofRatio (negative : Bool) (num : Nat) (hden : 0 < den) :
    (ofRatio negative num den).isNormal = true := by
  by_cases hnum : num = 0
  · rw [hnum, ofRatio, if_pos rfl]
    exact isNormal_zero negative
  obtain ⟨hle, hlt⟩ := magnitude_spec (Nat.pos_of_ne_zero hnum) hden
  have hunit : -1074 ≤ unitOf num den := le_max_right _ _
  have hhigh : inUnits num den (unitOf num den) ≤ 2 ^ 53 := by
    refine inUnits_le hden (hlt.le.trans ?_)
    rw [Nat.cast_pow, Nat.cast_two, ← zpow_natCast, ← zpow_add₀ two_ne_zero]
    refine zpow_le_zpow_right₀ one_le_two ?_
    have : magnitude num den - 52 ≤ unitOf num den := le_max_left _ _
    push_cast
    omega
  have hlow : unitOf num den = -1074 ∨ 2 ^ 52 ≤ inUnits num den (unitOf num den) := by
    rcases max_choice (magnitude num den - 52) (-1074) with h | h
    · refine .inr (le_inUnits hden (le_trans (le_of_eq ?_) hle))
      rw [Nat.cast_pow, Nat.cast_two, ← zpow_natCast, ← zpow_add₀ two_ne_zero, unitOf, h]
      congr 1
      push_cast
      omega
    · exact .inl h
  rw [ofRatio_eq negative hnum, ofUnits]
  split
  · split
    · rfl
    · rw [isNormal_finite]
      exact ⟨by decide, by omega, by omega, .inl le_rfl⟩
  · split
    · rfl
    · rw [isNormal_finite]
      exact ⟨by omega, hunit, by omega, hlow.symm⟩

end UmlPress.Binary64
