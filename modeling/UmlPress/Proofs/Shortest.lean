import UmlPress.Proofs.Numerals
import UmlPress.Proofs.Rounding

/-!
# Digits that read back

A fraction that is nearer to a number than one part in `2 ^ 54` is rounded to it. The decimals
of seventeen digits are dense enough for one of them to be that near to any number, so the
search for the fewest digits ends with digits that are read as the number they are written
for.
-/
namespace UmlPress.Binary64
variable {num den m : Nat} {b : Int} {negative : Bool}

/-! Near fractions. -/

theorem ofUnits_of_lt (hm : m < 2 ^ 53) (hb : b ≤ 971) :
    ofUnits negative m b = .finite negative m b := by
  rw [ofUnits, if_neg (by omega), if_neg (by omega)]

theorem unitOf_eq {e : Int} (hnum : 0 < num) (hden : 0 < den) (he : -1022 ≤ e)
    (hlow : (2 : ℚ) ^ e ≤ num / den) (hhigh : (num : ℚ) / den < 2 ^ (e + 1)) :
    unitOf num den = e - 52 := by
  rw [unitOf, magnitude_eq hnum hden hlow hhigh]
  omega

theorem unitOf_eq_least (hnum : 0 < num) (hden : 0 < den)
    (hhigh : (num : ℚ) / den < 2 ^ (-1021 : Int)) : unitOf num den = -1074 := by
  have h := magnitude_lt hnum hden hhigh
  rw [unitOf]
  omega

theorem two_zpow_add (b : Int) (k : Nat) : (2 : ℚ) ^ (b + k) = 2 ^ k * 2 ^ b := by
  rw [zpow_add₀ two_ne_zero, zpow_natCast, mul_comm]

theorem num_pos_of_near (hm : 0 < m) (hden : 0 < den)
    (hnear : |(num : ℚ) / den - m * 2 ^ b| < m * 2 ^ b / 2 ^ 54) : 0 < num := by
  have hvalue : (0 : ℚ) < m * 2 ^ b := by positivity
  have hpart : (m : ℚ) * 2 ^ b / 2 ^ 54 < m * 2 ^ b := div_lt_self hvalue (by norm_num)
  have hq : (0 : ℚ) < num / den := by
    have := (abs_lt.1 hnear).1
    linarith
  exact_mod_cast (div_pos_iff_of_pos_right (by positivity)).1 hq

/-- Within half a unit a fraction of the number's own binade has the number's unit; among the
least numbers there is no smaller one. -/
theorem unitOf_of_near (hnum : 0 < num) (hden : 0 < den) (hlt : m < 2 ^ 53) (hleast : -1074 ≤ b)
    (hnear : |(num : ℚ) / den - m * 2 ^ b| < 2 ^ b / 2)
    (hlow : b = -1074 ∨ (2 : ℚ) ^ (b + 52) ≤ num / den) : unitOf num den = b := by
  have hhigh : (num : ℚ) / den < 2 ^ (b + 52 + 1) := by
    have hexp : (2 : ℚ) ^ (b + 52 + 1) = 2 ^ 53 * 2 ^ b := by
      rw [add_assoc]
      exact two_zpow_add b 53
    have hpos : (0 : ℚ) < 2 ^ b := by positivity
    have hmore : (m : ℚ) + 1 ≤ 2 ^ 53 := by exact_mod_cast hlt
    have habove := (abs_lt.1 hnear).2
    rw [hexp]
    nlinarith
  rcases hlow with rfl | hlow
  · exact unitOf_eq_least hnum hden hhigh
  · rw [unitOf_eq hnum hden (by omega) hlow hhigh]
    omega

/-- Below a power of two the unit is half of the number's, which has twice as many of them. -/
theorem ofRatio_of_near_below (hnum : 0 < num) (hden : 0 < den) (hleast : -1074 < b) (hb : b ≤ 971)
    (hnear : |(num : ℚ) / den - 2 ^ 52 * 2 ^ b| < 2 ^ b / 2 / 2)
    (hbelow : (num : ℚ) / den < 2 ^ (b + 52)) :
    ofRatio negative num den = .finite negative (2 ^ 52) b := by
  have hpos : (0 : ℚ) < 2 ^ b := by positivity
  have hhalf : (2 : ℚ) ^ (b - 1) = 2 ^ b / 2 := by
    rw [zpow_sub_one₀ two_ne_zero, div_eq_mul_inv]
  have hlow : (2 : ℚ) ^ (b + 51) ≤ num / den := by
    have hexp : (2 : ℚ) ^ (b + 51) = 2 ^ 51 * 2 ^ b := two_zpow_add b 51
    have habove := (abs_lt.1 hnear).1
    rw [hexp]
    linarith
  have hunit : unitOf num den = b - 1 := by
    rw [unitOf_eq hnum hden (by omega) hlow (by rwa [add_assoc])]
    omega
  have hcount : inUnits num den (b - 1) = 2 ^ 53 := by
    refine inUnits_eq hden ?_
    have hvalue : ((2 ^ 53 : Nat) : ℚ) * 2 ^ (b - 1) = 2 ^ 52 * 2 ^ b := by
      rw [hhalf]
      push_cast
      ring
    rwa [hvalue, hhalf]
  rw [ofRatio_eq negative hnum.ne', hunit, hcount, ofUnits, if_pos rfl, if_neg (by omega),
    sub_add_cancel]

/-- A number in the middle of its binade, or among the least ones, has its own unit around it;
below a power of two the unit is half of it. -/
theorem ofRatio_of_near (hx : (finite negative m b).isNormal = true) (hm : 0 < m) (hden : 0 < den)
    (hnear : |(num : ℚ) / den - m * 2 ^ b| < m * 2 ^ b / 2 ^ 54) :
    ofRatio negative num den = .finite negative m b := by
  obtain ⟨hlt, hlow, hhigh, hform⟩ := isNormal_finite.1 hx
  have hnum : 0 < num := num_pos_of_near hm hden hnear
  have hpos : (0 : ℚ) < 2 ^ b := by positivity
  have hmore : (m : ℚ) + 1 ≤ 2 ^ 53 := by exact_mod_cast hlt
  have hhalf : |(num : ℚ) / den - m * 2 ^ b| < 2 ^ b / 2 := by
    refine hnear.trans_le ?_
    rw [div_le_div_iff₀ (by positivity) (by positivity)]
    nlinarith
  by_cases hown : b = -1074 ∨ (2 : ℚ) ^ (b + 52) ≤ num / den
  · rw [ofRatio_eq negative hnum.ne', unitOf_of_near hnum hden hlt hlow hhalf hown,
      inUnits_eq hden hhalf, ofUnits_of_lt hlt hhigh]
  · obtain ⟨hleast, hbelow⟩ := not_or.1 hown
    rw [not_le] at hbelow
    have hexp : (2 : ℚ) ^ (b + 52) = 2 ^ 52 * 2 ^ b := two_zpow_add b 52
    -- A larger number would be half a unit above the power of two.
    have hpower : m = 2 ^ 52 := by
      by_contra hne
      have hsize : 2 ^ 52 ≤ m := hform.resolve_right hleast
      have hnext : (2 : ℚ) ^ 52 + 1 ≤ m := by exact_mod_cast (by omega : 2 ^ 52 + 1 ≤ m)
      have := (abs_lt.1 hhalf).1
      nlinarith
    have hcast : (m : ℚ) = 2 ^ 52 := by rw [hpower]; norm_num
    have hquarter : (m : ℚ) * 2 ^ b / 2 ^ 54 = 2 ^ b / 2 / 2 := by
      rw [hcast]
      ring
    rw [hquarter, hcast] at hnear
    rw [hpower]
    exact ofRatio_of_near_below hnum hden (by omega) hhigh hnear hbelow

/-! Decimals. -/

section
variable {d k : Nat} {e : Int}

/-- The place of the first digit bounds a decimal from both sides. -/
theorem size_spec (hd : 0 < d) (e : Int) :
    (10 : ℚ) ^ ((Nat.toDigits 10 d).length + e - 1) ≤ d * 10 ^ e ∧
      (d : ℚ) * 10 ^ e < 10 ^ ((Nat.toDigits 10 d).length + e) := by
  have hlen := Nat.length_toDigits_pos (b := 10) (n := d)
  have hupper : d < 10 ^ (Nat.toDigits 10 d).length :=
    (Nat.length_toDigits_le_iff (by omega) hlen).1 le_rfl
  have hlower : 10 ^ ((Nat.toDigits 10 d).length - 1) ≤ d := by
    by_cases hone : (Nat.toDigits 10 d).length = 1
    · rw [hone]
      exact hd
    · by_contra hnot
      have := (Nat.length_toDigits_le_iff (b := 10) (n := d) (by omega) (by omega)).2
        (not_le.1 hnot)
      omega
  have hten : (10 : ℚ) ≠ 0 := by norm_num
  constructor
  · rw [show ((Nat.toDigits 10 d).length : Int) + e - 1 =
      ((Nat.toDigits 10 d).length - 1 : Nat) + e by omega, zpow_add₀ hten, zpow_natCast]
    gcongr
    exact_mod_cast hlower
  · rw [zpow_add₀ hten, zpow_natCast]
    gcongr
    exact_mod_cast hupper

/-- A decimal is a fraction, rounded if it is not far outside the range of the type. -/
theorem exists_ofDecimal (d : Nat) (e : Int) : ∃ num den : Nat, 0 < den ∧
    (num : ℚ) / den = d * 10 ^ e ∧ ∀ negative, ofDecimal negative d e =
      if d = 0 ∨ ((Nat.toDigits 10 d).length : Int) + e < -400 then zero negative
      else if 400 < ((Nat.toDigits 10 d).length : Int) + e then .infinity negative
      else ofRatio negative num den := by
  unfold ofDecimal
  by_cases he : 0 ≤ e
  · refine ⟨d * 10 ^ e.toNat, 1, Nat.one_pos, ?_, fun negative => ?_⟩
    · rw [Nat.cast_one, div_one, Nat.cast_mul, cast_pow_toNat 10 he]
      norm_num
    · rw [if_pos he]
      rfl
  · refine ⟨d, 10 ^ (-e).toNat, by positivity, ?_, fun negative => ?_⟩
    · rw [cast_pow_toNat_neg 10 he, div_inv_eq_mul]
      norm_num
    · rw [if_neg he]
      rfl

theorem isNormal_ofDecimal (negative : Bool) (d : Nat) (e : Int) :
    (ofDecimal negative d e).isNormal = true := by
  obtain ⟨num, den, hden, -, hvalue⟩ := exists_ofDecimal d e
  rw [hvalue]
  split
  · exact isNormal_zero negative
  · split
    · rfl
    · exact isNormal_ofRatio negative num hden

/-- Zeros at the end may as well be in the exponent. -/
theorem ofDecimal_mul_pow (negative : Bool) (d k : Nat) (e : Int) :
    ofDecimal negative (d * 10 ^ k) e = ofDecimal negative d (e + k) := by
  obtain ⟨num, den, hden, hratio, hvalue⟩ := exists_ofDecimal (d * 10 ^ k) e
  obtain ⟨num', den', hden', hratio', hvalue'⟩ := exists_ofDecimal d (e + k)
  have hsame : (num : ℚ) / den = num' / den' := by
    rw [hratio, hratio', zpow_add₀ (by norm_num), zpow_natCast]
    push_cast
    ring
  rw [hvalue, hvalue', ofRatio_congr negative hden hden' hsame]
  rcases Nat.eq_zero_or_pos d with rfl | hd
  · simp
  · have hlen : ((Nat.toDigits 10 (d * 10 ^ k)).length : Int) + e =
        (Nat.toDigits 10 d).length + (e + k) := by
      rw [Numeral.toDigits_mul_pow hd, List.length_append, List.length_replicate]
      omega
    have hzero : d * 10 ^ k = 0 ↔ d = 0 := by
      simp
    simp only [hlen, hzero]

theorem ofUnits_sign {n : Nat} {unit : Int} (h : ofUnits false n unit = .finite false m b) :
    ofUnits negative n unit = .finite negative m b := by
  unfold ofUnits at h ⊢
  split at h
  · rename_i hn
    split at h
    · cases h
    · rename_i hunit
      cases h
      rw [if_pos hn, if_neg hunit]
  · rename_i hn
    split at h
    · cases h
    · rename_i hunit
      cases h
      rw [if_neg hn, if_neg hunit]

/-- The sign has no part in the rounding. -/
theorem ofDecimal_sign (h : ofDecimal false d e = .finite false m b) :
    ofDecimal negative d e = .finite negative m b := by
  obtain ⟨num, den, -, -, hvalue⟩ := exists_ofDecimal d e
  rw [hvalue] at h ⊢
  split at h
  · rename_i hzero
    cases h
    rw [if_pos hzero, zero]
  · rename_i hzero
    split at h
    · cases h
    · rename_i hlarge
      rw [if_neg hzero, if_neg hlarge]
      by_cases hnum : num = 0
      · rw [ofRatio, if_pos hnum] at h ⊢
        cases h
        rfl
      · rw [ofRatio_eq _ hnum] at h ⊢
        exact ofUnits_sign h

/-- Numbers are far from the ends of the range of decimals. -/
theorem range_of_isNormal (hx : (finite negative m b).isNormal = true) (hm : 0 < m) :
    (10 : ℚ) ^ (-400 : Int) < m * 2 ^ b / 2 ∧ 2 * ((m : ℚ) * 2 ^ b) < 10 ^ (400 : Int) := by
  obtain ⟨hlt, hlow, hhigh, -⟩ := isNormal_finite.1 hx
  have hten : (2 : ℚ) ^ (1200 : Int) ≤ 10 ^ (400 : Int) := by
    rw [show (1200 : Int) = 3 * 400 by norm_num, zpow_mul]
    exact zpow_le_zpow_left₀ (by norm_num) (by norm_num) (by norm_num)
  have hone : (1 : ℚ) ≤ m := by exact_mod_cast hm
  have hltq : (m : ℚ) < 2 ^ (53 : Int) := by exact_mod_cast hlt
  constructor
  · have hinv : (10 : ℚ) ^ (-400 : Int) ≤ 2 ^ (-1200 : Int) := by
      rw [zpow_neg, zpow_neg]
      exact inv_anti₀ (by positivity) hten
    refine hinv.trans_lt ?_
    rw [lt_div_iff₀ two_pos]
    calc (2 : ℚ) ^ (-1200 : Int) * 2 = 2 ^ (-1199 : Int) := by
          rw [← zpow_add_one₀ two_ne_zero]
          norm_num
      _ < 2 ^ b := zpow_lt_zpow_right₀ one_lt_two (by omega)
      _ ≤ m * 2 ^ b := le_mul_of_one_le_left (by positivity) hone
  · refine lt_of_lt_of_le ?_ hten
    calc 2 * ((m : ℚ) * 2 ^ b) < 2 * (2 ^ (53 : Int) * 2 ^ b) := by gcongr
      _ = 2 ^ (b + 54) := by
          rw [← zpow_add₀ two_ne_zero, ← zpow_one_add₀ two_ne_zero,
            show 1 + (53 + b) = b + 54 by ring]
      _ ≤ 2 ^ (1200 : Int) := zpow_le_zpow_right₀ one_le_two (by omega)

theorem ofDecimal_of_near (hx : (finite negative m b).isNormal = true) (hm : 0 < m)
    (hnear : |(d : ℚ) * 10 ^ e - m * 2 ^ b| < m * 2 ^ b / 2 ^ 54) :
    ofDecimal negative d e = .finite negative m b := by
  obtain ⟨num, den, hden, hratio, hvalue⟩ := exists_ofDecimal d e
  obtain ⟨hleast, hmost⟩ := range_of_isNormal hx hm
  obtain ⟨hbelow, habove⟩ := abs_lt.1 hnear
  have hpos : (0 : ℚ) < m * 2 ^ b := by
    have : (0 : ℚ) < m := by exact_mod_cast hm
    positivity
  have hspread : (m : ℚ) * 2 ^ b / 2 ^ 54 ≤ m * 2 ^ b / 2 := by
    gcongr
    norm_num
  have hd : 0 < d := by
    rcases Nat.eq_zero_or_pos d with rfl | hd
    · norm_num at hbelow
      linarith
    · exact hd
  obtain ⟨hlow, hhigh⟩ := size_spec hd e
  have hhalf : (m : ℚ) * 2 ^ b / 2 < d * 10 ^ e := by linarith
  have hdouble : (d : ℚ) * 10 ^ e < 2 * (m * 2 ^ b) := by linarith
  have hsmall : -400 < ((Nat.toDigits 10 d).length : Int) + e :=
    (zpow_lt_zpow_iff_right₀ (by norm_num : (1 : ℚ) < 10)).1
      ((hleast.trans hhalf).trans hhigh)
  have hlarge : ((Nat.toDigits 10 d).length : Int) + e - 1 < 400 :=
    (zpow_lt_zpow_iff_right₀ (by norm_num : (1 : ℚ) < 10)).1
      (hlow.trans_lt (hdouble.trans hmost))
  rw [hvalue, if_neg (by omega), if_neg (by omega)]
  exact ofRatio_of_near hx hm hden (by rwa [hratio])

end

/-! The search. -/

section
variable {d : Nat} {e k : Int}

theorem ratio_pos (m : Nat) (b : Int) : 0 < (ratio m b).2 := by
  unfold ratio
  split
  · exact Nat.one_pos
  · exact Nat.pow_pos Nat.two_pos

theorem cast_ratio (m : Nat) (b : Int) :
    ((ratio m b).1 : ℚ) / (ratio m b).2 = m * 2 ^ b := by
  unfold ratio
  split
  · rename_i hb
    rw [natPow_eq, Nat.cast_one, div_one, Nat.cast_mul, cast_pow_toNat 2 hb]
    norm_num
  · rename_i hb
    rw [natPow_eq, cast_pow_toNat_neg 2 hb, div_inv_eq_mul]
    norm_num

theorem below_eq (hden : 0 < den) (num : Nat) (k : Int) :
    (if 0 ≤ k then decide (num < den * Nat.pow 10 k.toNat)
      else decide (num * Nat.pow 10 (-k).toNat < den)) = decide ((num : ℚ) / den < 10 ^ k) := by
  have hpos : (0 : ℚ) < den := by positivity
  split
  · rename_i hk
    rw [decide_eq_decide, div_lt_iff₀ hpos, natPow_eq, ← Nat.cast_lt (α := ℚ), Nat.cast_mul,
      cast_pow_toNat 10 hk, mul_comm]
    norm_num
  · rename_i hk
    rw [decide_eq_decide, div_lt_iff₀ hpos, natPow_eq, ← Nat.cast_lt (α := ℚ), Nat.cast_mul,
      cast_pow_toNat_neg 10 hk, ← div_eq_mul_inv, div_lt_iff₀ (by positivity), mul_comm]
    norm_num

/-- The point stands so far to the left that a digit other than zero comes next. -/
theorem decimalPoint_spec (hnum : 0 < num) (hden : 0 < den) :
    (10 : ℚ) ^ (decimalPoint num den - 1) ≤ num / den := by
  have hpos : (0 : ℚ) < den := by positivity
  have hten : (10 : ℚ) ≠ 0 := by norm_num
  obtain ⟨hlow, -⟩ := size_spec hnum 0
  obtain ⟨-, hhigh⟩ := size_spec hden 0
  simp only [zpow_zero, mul_one, add_zero] at hlow hhigh
  unfold decimalPoint
  simp only [below_eq hden, decide_eq_true_eq]
  generalize ((Nat.toDigits 10 num).length : Int) = n at *
  generalize ((Nat.toDigits 10 den).length : Int) = l at *
  split
  · rw [le_div_iff₀ hpos]
    calc (10 : ℚ) ^ (n - l - 1) * den ≤ 10 ^ (n - l - 1) * 10 ^ l := by gcongr
      _ = 10 ^ (n - 1) := by
          rw [← zpow_add₀ hten]
          congr 1
          ring
      _ ≤ num := hlow
  · rename_i hfirst
    split
    · rw [add_sub_cancel_right]
      exact not_lt.1 hfirst
    · rename_i hsecond
      rw [show n - l + 2 - 1 = n - l + 1 by ring]
      exact not_lt.1 hsecond

theorem exists_neighbours (hden : 0 < den) (num : Nat) (e : Int) : ∃ a s : Nat, 0 < s ∧
    (a : ℚ) / s = num / den / 10 ^ e ∧ (neighbours num den e).1 = a / s := by
  unfold neighbours
  split
  · rename_i a s h
    split at h
    · rename_i he
      cases h
      refine ⟨num, den * 10 ^ e.toNat, by positivity, ?_, rfl⟩
      rw [Nat.cast_mul, cast_pow_toNat 10 he, div_div]
      norm_num
    · rename_i he
      cases h
      refine ⟨num * 10 ^ (-e).toNat, den, hden, ?_, rfl⟩
      rw [Nat.cast_mul, cast_pow_toNat_neg 10 he]
      field_simp
      norm_num

/-- Of the two neighbours on a grid one is at most half a unit away. -/
theorem neighbours_spec (hden : 0 < den) (num : Nat) (e : Int) :
    |((neighbours num den e).1 : ℚ) * 10 ^ e - num / den| ≤ 10 ^ e / 2 ∨
      |(((neighbours num den e).1 + 1 : Nat) : ℚ) * 10 ^ e - num / den| ≤ 10 ^ e / 2 := by
  obtain ⟨a, s, hs, hvalue, hlow⟩ := exists_neighbours hden num e
  have hpos : (0 : ℚ) < s := by positivity
  have hunit : (0 : ℚ) < 10 ^ e := by positivity
  have hq : (num : ℚ) / den = a / s * 10 ^ e := by
    rw [hvalue]
    field_simp
  have hle : ((a / s : Nat) : ℚ) ≤ a / s := by
    rw [le_div_iff₀ hpos]
    exact_mod_cast Nat.div_mul_le_self a s
  have hlt : (a : ℚ) / s < (a / s : Nat) + 1 := by
    rw [div_lt_iff₀ hpos]
    have := Nat.lt_div_mul_add (a := a) hs
    have : (a : ℚ) < (a / s : Nat) * s + s := by exact_mod_cast this
    linarith
  rw [hlow, hq, Nat.cast_succ]
  generalize ((a / s : Nat) : ℚ) = n at hle hlt ⊢
  generalize (a : ℚ) / s = x at hle hlt ⊢
  rcases le_total (x - n) (1 / 2) with h | h
  · left
    rw [abs_le]
    constructor <;> nlinarith
  · right
    rw [abs_le]
    constructor <;> nlinarith

theorem of_digitsOn (h : digitsOn? m b e = some d) : ofDecimal false d e = .finite false m b := by
  unfold digitsOn? at h
  dsimp only at h
  split at h
  · rename_i hlow
    split at h
    · rename_i hboth
      cases h
      exact of_decide_eq_true (Bool.and_eq_true _ _ ▸ hboth).1
    · cases h
      exact of_decide_eq_true hlow
  · split at h
    · rename_i hhigh
      cases h
      exact of_decide_eq_true hhigh
    · cases h

theorem isSome_digitsOn
    (h : ofDecimal false (neighbours (ratio m b).1 (ratio m b).2 e).1 e = .finite false m b ∨
      ofDecimal false ((neighbours (ratio m b).1 (ratio m b).2 e).1 + 1) e = .finite false m b) :
    (digitsOn? m b e).isSome = true := by
  unfold digitsOn?
  dsimp only
  split
  · split <;> rfl
  · rename_i hlow
    rw [if_pos (decide_eq_true (h.resolve_left fun heq => hlow (decide_eq_true heq)))]
    rfl

/-- Seventeen digits are enough. -/
theorem isSome_digitsOn_seventeen (hx : (finite false m b).isNormal = true) (hm : 0 < m) :
    (digitsOn? m b (decimalPoint (ratio m b).1 (ratio m b).2 - 17)).isSome = true := by
  have hden := ratio_pos m b
  have hratio := cast_ratio m b
  have hpos : (0 : ℚ) < m * 2 ^ b := by
    have : (0 : ℚ) < m := by exact_mod_cast hm
    positivity
  have hnum : 0 < (ratio m b).1 := by
    have hdenq : (0 : ℚ) < (ratio m b).2 := by exact_mod_cast hden
    have hnumq : (0 : ℚ) < (ratio m b).1 := by
      rw [← div_pos_iff_of_pos_right hdenq, hratio]
      exact hpos
    exact_mod_cast hnumq
  have hpoint := decimalPoint_spec hnum hden
  have hnear := neighbours_spec hden (ratio m b).1 (decimalPoint (ratio m b).1 (ratio m b).2 - 17)
  rw [hratio] at hpoint hnear
  have hgrid : (10 : ℚ) ^ (decimalPoint (ratio m b).1 (ratio m b).2 - 17) / 2 <
      m * 2 ^ b / 2 ^ 54 := by
    have hstep : (10 : ℚ) ^ (decimalPoint (ratio m b).1 (ratio m b).2 - 17) * 10 ^ 16 =
        10 ^ (decimalPoint (ratio m b).1 (ratio m b).2 - 1) := by
      rw [← zpow_natCast, ← zpow_add₀ (by norm_num)]
      congr 1
      push_cast
      ring
    rw [div_lt_div_iff₀ (by positivity) (by positivity)]
    nlinarith
  exact isSome_digitsOn (hnear.imp (fun h => ofDecimal_of_near hx hm (h.trans_lt hgrid))
    fun h => ofDecimal_of_near hx hm (h.trans_lt hgrid))

theorem exists_shortestFrom {point : Int} {n fuel i : Nat} (hi : i < fuel)
    (h : (digitsOn? m b (point - (n + i : Nat))).isSome = true) :
    ∃ d e, shortestFrom m b point n fuel = (d, e) ∧ ofDecimal false d e = .finite false m b := by
  induction fuel generalizing n i with
  | zero => cases hi
  | succ fuel ih =>
    rw [shortestFrom]
    cases hd : digitsOn? m b (point - n) with
    | some d => exact ⟨d, _, rfl, of_digitsOn hd⟩
    | none =>
      cases i with
      | zero =>
        rw [Nat.add_zero, hd] at h
        cases h
      | succ i => exact ih (Nat.lt_of_succ_lt_succ hi) (by rwa [Nat.add_assoc, Nat.add_comm 1])

theorem shortest_eq (m : Nat) (b : Int) {point : Int}
    (h : shortestFrom m b (decimalPoint (ratio m b).1 (ratio m b).2) 1 17 = (d, point)) :
    shortest m b = (Numeral.strip (Nat.toDigits 10 d), (Nat.toDigits 10 d).length + point) := by
  unfold shortest
  dsimp only
  rw [h]
  rfl

/-- The digits that a number is written with are read as that number. -/
theorem exists_shortest (hx : (finite false m b).isNormal = true) (hm : 0 < m) :
    ∃ digits point, shortest m b = (digits, point) ∧ digits ≠ [] ∧
      (∀ c ∈ digits, c.isDigit = true) ∧ digits.head? ≠ some '0' ∧
      ∀ negative, ofDecimal negative (Numeral.value digits) (point - digits.length) =
        .finite negative m b := by
  have hseventeen := isSome_digitsOn_seventeen hx hm
  obtain ⟨d, e, hfound, hreads⟩ := exists_shortestFrom (n := 1) (by omega : 16 < 17)
    hseventeen
  obtain ⟨k, hk⟩ := Numeral.exists_strip (Nat.toDigits 10 d)
  have hvalue : Numeral.value (Numeral.strip (Nat.toDigits 10 d)) * 10 ^ k = d := by
    rw [← Numeral.value_append_zeros, ← hk, Numeral.value_toDigits]
  have hlen : (Nat.toDigits 10 d).length = (Numeral.strip (Nat.toDigits 10 d)).length + k := by
    conv_lhs => rw [hk, List.length_append, List.length_replicate]
  have hd : 0 < d := by
    refine Nat.pos_of_ne_zero ?_
    rintro rfl
    rw [ofDecimal, if_pos (.inl rfl)] at hreads
    cases hreads
    exact hm.ne rfl
  have hne : Numeral.strip (Nat.toDigits 10 d) ≠ [] := by
    intro hnil
    rw [hnil] at hvalue
    exact hd.ne (by rw [← hvalue]; exact (Nat.zero_mul _).symm)
  refine ⟨_, _, shortest_eq m b hfound, hne, fun c hc => ?_, fun hzero => ?_, fun negative => ?_⟩
  · exact Numeral.isDigit_of_mem_toDigits (n := d) (by rw [hk]; exact List.mem_append_left _ hc)
  · obtain ⟨r, hr⟩ : ∃ r, Numeral.strip (Nat.toDigits 10 d) = '0' :: r := by
      cases hs : Numeral.strip (Nat.toDigits 10 d) with
      | nil => exact absurd hs hne
      | cons c r =>
        rw [hs] at hzero
        exact ⟨r, by rw [Option.some.inj hzero]⟩
    refine Numeral.toDigits_ne_zero_cons hd (r ++ List.replicate k '0') ?_
    rw [hk, hr]
    rfl
  · rw [hlen, show ((Numeral.strip (Nat.toDigits 10 d)).length + k : Nat) + e -
      (Numeral.strip (Nat.toDigits 10 d)).length = e + k by push_cast; ring,
      ← ofDecimal_mul_pow, hvalue]
    exact ofDecimal_sign hreads

end

end UmlPress.Binary64
