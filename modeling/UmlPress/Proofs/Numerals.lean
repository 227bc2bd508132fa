import Mathlib.Data.List.TakeWhile
import Mathlib.Tactic.Linarith
import Mathlib.Tactic.Positivity
import Mathlib.Tactic.Ring

/-!
# Decimal numerals

The digits of a whole number do not begin with a zero, their number bounds its size, and
zeros behind them are a power of ten.
-/
namespace UmlPress.Numeral
variable {n : Nat} {ds : List Char}

abbrev value (ds : List Char) : Nat := Nat.ofDigitChars 10 ds 0

theorem value_toDigits (n : Nat) : value (Nat.toDigits 10 n) = n := Nat.ofDigitChars_ten_toDigits

theorem value_append_zeros (ds : List Char) (k : Nat) :
    value (ds ++ List.replicate k '0') = value ds * 10 ^ k := by
  rw [value, Nat.ofDigitChars_append, Nat.ofDigitChars_replicate_zero, Nat.mul_comm]

theorem value_zeros_append (ds : List Char) (k : Nat) :
    value (List.replicate k '0' ++ ds) = value ds := by
  rw [value, Nat.ofDigitChars_append, Nat.ofDigitChars_replicate_zero, Nat.mul_zero]

theorem toDigits_mul_pow (hn : 0 < n) (k : Nat) :
    Nat.toDigits 10 (n * 10 ^ k) = Nat.toDigits 10 n ++ List.replicate k '0' := by
  induction k with
  | zero => simp
  | succ k ih =>
    have hlast := Nat.toDigits_append_toDigits (b := 10) (n := n * 10 ^ k) (d := 0) (by omega)
      (by positivity) (by omega)
    rw [pow_succ, show n * (10 ^ k * 10) = 10 * (n * 10 ^ k) + 0 by ring, ← hlast, ih,
      List.replicate_succ', ← List.append_assoc]
    rfl

theorem toNat_of_isDigit {c : Char} (h : c.isDigit = true) : 48 ≤ c.toNat ∧ c.toNat ≤ 57 := by
  rw [Char.isDigit, Bool.and_eq_true, decide_eq_true_iff, decide_eq_true_iff] at h
  exact ⟨h.1, h.2⟩

theorem ofDigitChars_lt (h : ∀ c ∈ ds, c.isDigit = true) (start : Nat) :
    Nat.ofDigitChars 10 ds start < (start + 1) * 10 ^ ds.length := by
  induction ds generalizing start with
  | nil => simp [Nat.ofDigitChars]
  | cons c r ih =>
    obtain ⟨hc, hr⟩ := List.forall_mem_cons.1 h
    have hdigit := toNat_of_isDigit hc
    have hnext : 10 * start + (c.toNat - 48) + 1 ≤ (start + 1) * 10 := by omega
    calc Nat.ofDigitChars 10 (c :: r) start
        = Nat.ofDigitChars 10 r (10 * start + (c.toNat - 48)) := rfl
      _ < (10 * start + (c.toNat - 48) + 1) * 10 ^ r.length := ih hr _
      _ ≤ (start + 1) * 10 * 10 ^ r.length := Nat.mul_le_mul_right _ hnext
      _ = (start + 1) * 10 ^ (c :: r).length := by
          rw [List.length_cons, pow_succ]
          ring

theorem value_lt (h : ∀ c ∈ ds, c.isDigit = true) : value ds < 10 ^ ds.length := by
  have hlt := ofDigitChars_lt h 0
  rwa [Nat.zero_add, Nat.one_mul] at hlt

theorem length_toDigits_value_le (hne : ds ≠ []) (h : ∀ c ∈ ds, c.isDigit = true) :
    (Nat.toDigits 10 (value ds)).length ≤ ds.length :=
  (Nat.length_toDigits_le_iff (by omega) (List.length_pos_iff.2 hne)).2 (value_lt h)

theorem isDigit_of_mem_toDigits {c : Char} (h : c ∈ Nat.toDigits 10 n) : c.isDigit = true :=
  Nat.isDigit_of_mem_toDigits (by omega) (by omega) h

theorem toDigits_ne_zero_cons (hn : 0 < n) (r : List Char) : Nat.toDigits 10 n ≠ '0' :: r := by
  intro heq
  have hvalue : value r = n := by
    rw [← value_toDigits n, heq]
    rfl
  have hr : ∀ c ∈ r, c.isDigit = true := fun c hc =>
    isDigit_of_mem_toDigits (n := n) (by rw [heq]; exact List.mem_cons_of_mem _ hc)
  have hne : r ≠ [] := by
    rintro rfl
    exact hn.ne hvalue
  have hlen := length_toDigits_value_le hne hr
  rw [hvalue, heq, List.length_cons] at hlen
  omega

def strip (ds : List Char) : List Char := (ds.reverse.dropWhile (· == '0')).reverse

theorem exists_strip (ds : List Char) : ∃ k, ds = strip ds ++ List.replicate k '0' := by
  refine ⟨(ds.reverse.takeWhile (· == '0')).length, ?_⟩
  have hzeros : ds.reverse.takeWhile (· == '0') =
      List.replicate (ds.reverse.takeWhile (· == '0')).length '0' :=
    List.eq_replicate_of_mem fun c hc => by simpa using List.mem_takeWhile_imp hc
  have hsplit := congrArg List.reverse
    (List.takeWhile_append_dropWhile (p := (· == '0')) (l := ds.reverse))
  rw [List.reverse_append, List.reverse_reverse, hzeros, List.reverse_replicate] at hsplit
  exact hsplit.symm

end UmlPress.Numeral
