import UmlPress.Json.Reader
import UmlPress.Json.Writer
import UmlPress.Proofs.Shortest

/-!
# Numbers are read back

A number is followed by a comma, by the end of its line or by nothing, so the reader takes
all of its digits and nothing else. It finds the sign, the digits before and behind the
point and the exponent that were written, in whichever of the three layouts.
-/
namespace UmlPress.Json.Reader
variable {negative : Bool} {digits whole part rest start : List Char} {point e : Int}

def Ends (rest : List Char) : Prop := ∀ c ∈ rest.head?, c = ',' ∨ c = '\n'

def NoDigit (rest : List Char) : Prop := ∀ c ∈ rest.head?, isDigit c = false

theorem ends_nil : Ends [] := nofun

theorem ends_comma (rest : List Char) : Ends (',' :: rest) := by
  rintro c ⟨⟩
  exact .inl rfl

theorem ends_newLine (rest : List Char) : Ends ('\n' :: rest) := by
  rintro c ⟨⟩
  exact .inr rfl

theorem Ends.noDigit (h : Ends rest) : NoDigit rest := by
  intro c hc
  rcases h c hc with rfl | rfl
  · rfl
  · rfl

theorem isDigit_eq (c : Char) : isDigit c = c.isDigit := by
  rw [isDigit, Char.isDigit, Bool.eq_iff_iff, Bool.and_eq_true, Bool.and_eq_true]
  simp only [decide_eq_true_eq]
  exact Iff.rfl

theorem digitsValue_eq (ds : List Char) : digitsValue ds = Numeral.value ds := rfl

theorem span_digits (hdigits : ∀ c ∈ digits, c.isDigit = true) (hrest : NoDigit rest) :
    (digits ++ rest).takeWhile isDigit = digits ∧ (digits ++ rest).dropWhile isDigit = rest := by
  have hall : ∀ c ∈ digits, isDigit c = true := fun c hc => isDigit_eq c ▸ hdigits c hc
  rw [List.takeWhile_append_of_pos hall, List.dropWhile_append_of_pos hall]
  cases rest with
  | nil => simp
  | cons c r =>
    have hc : isDigit c = false := hrest c rfl
    simp [hc]

/-! The parts of a number. -/

theorem fraction_eq_none (h : Ends rest) : fraction? rest = none := by
  cases rest with
  | nil => rfl
  | cons c r =>
    rcases h c rfl with rfl | rfl
    · rfl
    · rfl

theorem fraction_point (hne : part ≠ []) (hpart : ∀ c ∈ part, c.isDigit = true)
    (hrest : NoDigit rest) : fraction? ('.' :: (part ++ rest)) = some (part, rest) := by
  obtain ⟨htake, hdrop⟩ := span_digits hpart hrest
  rw [fraction?, htake, hdrop, if_neg (by simpa using hne)]

theorem exponent_eq_none (h : Ends rest) : exponent? rest = none := by
  cases rest with
  | nil => rfl
  | cons c r =>
    rcases h c rfl with rfl | rfl
    · rfl
    · rfl

def padded (n : Nat) : List Char :=
  if (Nat.toDigits 10 n).length < 2 then '0' :: Nat.toDigits 10 n else Nat.toDigits 10 n

theorem isDigit_of_mem_padded (n : Nat) : ∀ c ∈ padded n, c.isDigit = true := by
  unfold padded
  split
  · rintro c (_ | ⟨_, hc⟩)
    · rfl
    · exact Numeral.isDigit_of_mem_toDigits hc
  · exact fun c hc => Numeral.isDigit_of_mem_toDigits hc

theorem value_padded (n : Nat) : Numeral.value (padded n) = n := by
  unfold padded
  split
  · exact Numeral.value_toDigits n
  · exact Numeral.value_toDigits n

theorem padded_ne_nil (n : Nat) : padded n ≠ [] := by
  unfold padded
  split
  · exact List.cons_ne_nil _ _
  · exact Nat.toDigits_ne_nil

theorem exponentDigits_padded (negative : Bool) (n : Nat) (hrest : NoDigit rest) :
    exponentDigits? negative (padded n ++ rest) =
      some (if negative then -(n : Int) else n, rest) := by
  obtain ⟨htake, hdrop⟩ := span_digits (isDigit_of_mem_padded n) hrest
  rw [exponentDigits?, htake, hdrop, if_neg (by simpa using padded_ne_nil n), digitsValue_eq,
    value_padded]

theorem exponent_power (e : Int) (hrest : NoDigit rest) :
    exponent? ('e' :: (Binary64.exponentText e ++ rest)) = some (e, rest) := by
  by_cases he : e < 0
  · have htext : Binary64.exponentText e = '-' :: padded e.natAbs := by
      rw [Binary64.exponentText, if_pos he]
      rfl
    rw [htext]
    change exponentDigits? true (padded e.natAbs ++ rest) = _
    rw [exponentDigits_padded true _ hrest, if_pos rfl]
    congr 2
    omega
  · have htext : Binary64.exponentText e = '+' :: padded e.natAbs := by
      rw [Binary64.exponentText, if_neg he]
      rfl
    rw [htext]
    change exponentDigits? false (padded e.natAbs ++ rest) = _
    rw [exponentDigits_padded false _ hrest, if_neg Bool.false_ne_true]
    congr 2
    omega

def IsWhole (ds : List Char) : Prop :=
  ds = ['0'] ∨ ds ≠ [] ∧ ds.head? ≠ some '0' ∧ ∀ c ∈ ds, c.isDigit = true

theorem whole_digits (h : IsWhole whole) (hrest : NoDigit rest) :
    whole? (whole ++ rest) = some (whole, rest) := by
  obtain rfl | ⟨hne, hzero, hdigits⟩ := h
  · rfl
  · obtain ⟨htake, hdrop⟩ := span_digits hdigits hrest
    obtain ⟨c, r, rfl⟩ := List.exists_cons_of_ne_nil hne
    have hc : isDigit c = true := isDigit_eq c ▸ hdigits c List.mem_cons_self
    have hzero : c ≠ '0' := fun heq => hzero (by rw [heq]; rfl)
    rw [List.cons_append] at htake hdrop ⊢
    rw [whole?.eq_2 _ _ hzero, if_pos hc, htake, hdrop]

theorem number_int (hlen : whole.length ≤ digitLimit) (hrest : Ends rest) :
    number negative whole rest start = .ok (.int (if negative then -(Numeral.value whole : Int)
      else Numeral.value whole), rest) := by
  simp only [number, fraction_eq_none hrest, Option.map_none, Option.getD_none,
    exponent_eq_none hrest]
  exact if_neg (Nat.not_lt.2 hlen)

theorem number_fraction (hne : part ≠ []) (hpart : ∀ c ∈ part, c.isDigit = true)
    (hrest : Ends rest) : number negative whole ('.' :: (part ++ rest)) start =
      .ok (.real (.ofDecimal negative (Numeral.value (whole ++ part)) (0 - part.length)),
        rest) := by
  simp only [number, fraction_point hne hpart hrest.noDigit, Option.map_some, Option.getD_some,
    exponent_eq_none hrest, Option.map_none, Option.getD_none]
  rfl

theorem number_power (hrest : NoDigit rest) :
    number negative whole ('e' :: (Binary64.exponentText e ++ rest)) start =
      .ok (.real (.ofDecimal negative (Numeral.value whole) e), rest) := by
  have hpart : fraction? ('e' :: (Binary64.exponentText e ++ rest)) = none := rfl
  simp only [number, hpart, Option.map_none, Option.getD_none, exponent_power e hrest,
    Option.map_some, Option.getD_some, List.append_nil]
  change Except.ok (Json.real (.ofDecimal negative (digitsValue whole) (e - 0)), rest) = _
  rw [Int.sub_zero]
  rfl

theorem number_fraction_power (hne : part ≠ []) (hpart : ∀ c ∈ part, c.isDigit = true)
    (hrest : NoDigit rest) :
    number negative whole ('.' :: (part ++ 'e' :: (Binary64.exponentText e ++ rest))) start =
      .ok (.real (.ofDecimal negative (Numeral.value (whole ++ part)) (e - part.length)),
        rest) := by
  have hpower : NoDigit ('e' :: (Binary64.exponentText e ++ rest)) := by
    rintro c ⟨⟩
    rfl
  simp only [number, fraction_point hne hpart hpower, Option.map_some, Option.getD_some,
    exponent_power e hrest]
  rfl

/-! The layouts of a number. -/

/-- A number without its sign: the digits before the point, and what the reader then makes of
the rest of it. -/
def Shows (text : List Char) (x : Bool → Binary64) : Prop :=
  ∃ whole tail, text = whole ++ tail ∧ IsWhole whole ∧
    ∀ negative rest start, Ends rest → NoDigit (tail ++ rest) ∧
      number negative whole (tail ++ rest) start = .ok (.real (x negative), rest)

theorem shows_zero : Shows ['0', '.', '0'] Binary64.zero := by
  refine ⟨['0'], ['.', '0'], rfl, .inl rfl, fun negative rest start hrest => ⟨?_, ?_⟩⟩
  · rintro c ⟨⟩
    rfl
  · have hdigits : ∀ c ∈ ['0'], c.isDigit = true := List.forall_mem_singleton.2 rfl
    exact (number_fraction (List.cons_ne_nil _ _) hdigits hrest).trans rfl

theorem noDigit_point (rest : List Char) : NoDigit ('.' :: rest) := by
  rintro c ⟨⟩
  rfl

theorem noDigit_power (rest : List Char) : NoDigit ('e' :: rest) := by
  rintro c ⟨⟩
  rfl

theorem isDigit_of_mem_zeros {k : Nat} : ∀ c ∈ List.replicate k '0', c.isDigit = true := by
  intro c hc
  rw [List.eq_of_mem_replicate hc]
  rfl

theorem shows_behind_point (hne : digits ≠ []) (hdigits : ∀ c ∈ digits, c.isDigit = true)
    (k : Nat) : Shows ('0' :: '.' :: (List.replicate k '0' ++ digits)) fun negative =>
      .ofDecimal negative (Numeral.value digits) (-k - digits.length) := by
  refine ⟨['0'], '.' :: (List.replicate k '0' ++ digits), rfl, .inl rfl,
    fun negative rest start hrest => ⟨noDigit_point _, ?_⟩⟩
  have hpart : ∀ c ∈ List.replicate k '0' ++ digits, c.isDigit = true :=
    List.forall_mem_append.2 ⟨isDigit_of_mem_zeros, hdigits⟩
  have hvalue : Numeral.value (['0'] ++ (List.replicate k '0' ++ digits)) =
      Numeral.value digits := Numeral.value_zeros_append digits k
  have hpower : (0 : Int) - (k + digits.length : Nat) = -k - digits.length := by omega
  rw [List.cons_append, number_fraction (by simp [hne]) hpart hrest, hvalue, List.length_append,
    List.length_replicate, hpower]

/-- The zero behind the point is one more that counts as a power of ten. -/
theorem shows_before_point (hne : digits ≠ []) (hdigits : ∀ c ∈ digits, c.isDigit = true)
    (hzero : digits.head? ≠ some '0') (k : Nat) :
    Shows (digits ++ List.replicate k '0' ++ ['.', '0']) fun negative =>
      .ofDecimal negative (Numeral.value digits) k := by
  have hwhole : IsWhole (digits ++ List.replicate k '0') :=
    .inr ⟨List.append_ne_nil_of_left_ne_nil hne _, by rwa [List.head?_append_of_ne_nil _ hne],
      List.forall_mem_append.2 ⟨hdigits, isDigit_of_mem_zeros⟩⟩
  refine ⟨_, ['.', '0'], rfl, hwhole, fun negative rest start hrest => ⟨noDigit_point _, ?_⟩⟩
  have hvalue : Numeral.value (digits ++ List.replicate k '0' ++ ['0']) =
      Numeral.value digits * 10 ^ (k + 1) := by
    rw [List.append_assoc, ← List.replicate_succ', Numeral.value_append_zeros]
  have hpower : (0 : Int) - (['0'] : List Char).length + (k + 1 : Nat) = k := by
    rw [List.length_singleton]
    omega
  have hdigits : ∀ c ∈ ['0'], c.isDigit = true := List.forall_mem_singleton.2 rfl
  refine (number_fraction (List.cons_ne_nil _ _) hdigits hrest).trans ?_
  rw [hvalue, Binary64.ofDecimal_mul_pow, hpower]

theorem shows_around_point {front : List Char} (hfront : IsWhole front) (hne : part ≠ [])
    (hpart : ∀ c ∈ part, c.isDigit = true) : Shows (front ++ '.' :: part) fun negative =>
      .ofDecimal negative (Numeral.value (front ++ part)) (-part.length) := by
  refine ⟨front, '.' :: part, rfl, hfront, fun negative rest start hrest => ⟨noDigit_point _, ?_⟩⟩
  rw [List.cons_append, number_fraction hne hpart hrest, Int.zero_sub]

theorem shows_power {first : List Char} (hfirst : IsWhole first)
    (hpart : ∀ c ∈ part, c.isDigit = true) (e : Int) :
    Shows (first ++ (if part = [] then [] else '.' :: part) ++ 'e' :: Binary64.exponentText e)
      fun negative => .ofDecimal negative (Numeral.value (first ++ part)) (e - part.length) := by
  refine ⟨first, _, List.append_assoc _ _ _, hfirst, fun negative rest start hrest => ?_⟩
  split
  · rename_i hnil
    rw [hnil, List.nil_append, List.append_nil, List.cons_append, number_power hrest.noDigit]
    refine ⟨noDigit_power _, ?_⟩
    rw [List.length_nil, Int.natCast_zero, Int.sub_zero]
  · rename_i hne
    rw [List.cons_append, List.cons_append, List.append_assoc, List.cons_append,
      number_fraction_power hne hpart hrest.noDigit]
    exact ⟨noDigit_point _, rfl⟩

theorem isWhole_take (hne : digits ≠ []) (hdigits : ∀ c ∈ digits, c.isDigit = true)
    (hzero : digits.head? ≠ some '0') {k : Nat} (hk : 0 < k) : IsWhole (digits.take k) := by
  obtain ⟨c, r, rfl⟩ := List.exists_cons_of_ne_nil hne
  obtain ⟨k, rfl⟩ := Nat.exists_eq_succ_of_ne_zero (Nat.ne_of_gt hk)
  exact .inr ⟨by simp, by simpa using hzero, fun c hc => hdigits c (List.mem_of_mem_take hc)⟩

theorem shows_layout (hne : digits ≠ []) (hdigits : ∀ c ∈ digits, c.isDigit = true)
    (hzero : digits.head? ≠ some '0') (point : Int) :
    Shows (Binary64.layout digits point) fun negative =>
      .ofDecimal negative (Numeral.value digits) (point - digits.length) := by
  unfold Binary64.layout
  split
  · rename_i hrange
    split
    · rename_i hpoint
      have hshows := shows_behind_point hne hdigits (-point).toNat
      rwa [show -((-point).toNat : Int) = point by omega] at hshows
    · rename_i hpoint
      have hfront := isWhole_take hne hdigits hzero (show 0 < point.toNat by omega)
      dsimp only
      by_cases hlen : digits.length ≤ point.toNat
      · rw [List.take_of_length_le hlen, List.drop_of_length_le hlen] at *
        have hshows := shows_before_point hne hdigits hzero (point.toNat - digits.length)
        rwa [show ((point.toNat - digits.length : Nat) : Int) = point - digits.length by omega]
          at hshows
      · have hpart : digits.drop point.toNat ≠ [] := by
          rw [ne_eq, List.drop_eq_nil_iff]
          exact hlen
        have hshows := shows_around_point hfront hpart fun c hc =>
          hdigits c (List.mem_of_mem_drop hc)
        rw [List.take_append_drop, List.length_drop] at hshows
        rw [List.length_take, Nat.min_eq_left (by omega), Nat.sub_self, List.replicate_zero,
          List.append_nil, if_neg (by simpa using hpart)]
        rwa [show -((digits.length - point.toNat : Nat) : Int) = point - digits.length by omega]
          at hshows
  · have hshows := shows_power (isWhole_take hne hdigits hzero Nat.one_pos)
      (fun c hc => hdigits c (List.mem_of_mem_drop hc) : ∀ c ∈ digits.drop 1, _) (point - 1)
    have hlen := List.length_pos_iff.2 hne
    rw [List.take_append_drop, List.length_drop,
      show point - 1 - ((digits.length - 1 : Nat) : Int) = point - digits.length by omega]
      at hshows
    have hcond : digits.drop 1 = [] ↔ digits.length ≤ 1 := List.drop_eq_nil_iff
    simpa only [hcond] using hshows

/-! Words and numbers. -/

theorem afterWord_of_ne {w c : Char} (h : w ≠ c) (ws cs : List Char) :
    afterWord? (w :: ws) (c :: cs) = none := if_neg h

def isWordlike : List Char → Bool
  | l :: l' :: _ => !l.isDigit && (l ≠ '-' || !l'.isDigit)
  | _ => false

/-- No word begins with a digit, not even behind a sign. -/
theorem exists_letters : ∀ w ∈ words, ∃ l l' r, w.1.toList = l :: l' :: r ∧
    l.isDigit = false ∧ (l = '-' → l'.isDigit = false) := by
  have hletters : ∀ w ∈ words, isWordlike w.1.toList = true := by decide
  intro w hw
  have hw := hletters w hw
  unfold isWordlike at hw
  split at hw
  · rename_i l l' r heq
    rw [Bool.and_eq_true, Bool.or_eq_true, Bool.not_eq_true', Bool.not_eq_true',
      decide_eq_true_iff] at hw
    exact ⟨l, l', r, heq, hw.1, fun hl => hw.2.resolve_left (not_not_intro hl)⟩
  · cases hw

theorem words_of_digit {c : Char} (hc : c.isDigit = true) (cs : List Char) :
    words.findSome? (fun w => (afterWord? w.1.toList (c :: cs)).map (w.2, ·)) = none ∧
      words.findSome? (fun w => (afterWord? w.1.toList ('-' :: c :: cs)).map (w.2, ·)) = none := by
  have hne : ∀ l : Char, l.isDigit = false → l ≠ c := by
    rintro l hl rfl
    rw [hc] at hl
    cases hl
  rw [List.findSome?_eq_none_iff, List.findSome?_eq_none_iff]
  refine ⟨fun w hw => ?_, fun w hw => ?_⟩
  all_goals
    obtain ⟨l, l', r, hword, hl, hl'⟩ := exists_letters w hw
    rw [hword, Option.map_eq_none_iff]
  · exact afterWord_of_ne (hne l hl) _ _
  · by_cases hminus : l = '-'
    · rw [hminus]
      exact afterWord_of_ne (hne l' (hl' hminus)) _ _
    · exact afterWord_of_ne hminus _ _

theorem isDigit_head (h : IsWhole whole) : ∃ c r, whole = c :: r ∧ c.isDigit = true := by
  obtain rfl | ⟨hne, -, hdigits⟩ := h
  · exact ⟨'0', [], rfl, rfl⟩
  · obtain ⟨c, r, rfl⟩ := List.exists_cons_of_ne_nil hne
    exact ⟨c, r, rfl, hdigits c List.mem_cons_self⟩

def sign (negative : Bool) : List Char := if negative then ['-'] else []

theorem scalar_number (hwhole : IsWhole whole) (hrest : NoDigit rest) (negative : Bool) :
    scalar (sign negative ++ (whole ++ rest)) =
      number negative whole rest (sign negative ++ (whole ++ rest)) := by
  have hdigits := whole_digits hwhole hrest
  obtain ⟨c, r, rfl, hc⟩ := isDigit_head hwhole
  obtain ⟨hplain, hsigned⟩ := words_of_digit hc (r ++ rest)
  rw [List.cons_append] at hdigits ⊢
  cases negative with
  | true =>
    change scalar ('-' :: c :: (r ++ rest)) = number true _ _ ('-' :: c :: (r ++ rest))
    unfold scalar
    rw [hsigned]
    simp only [hdigits]
  | false =>
    have hne : c ≠ '-' := by
      rintro rfl
      cases hc
    change scalar (c :: (r ++ rest)) = number false _ _ (c :: (r ++ rest))
    unfold scalar
    rw [hplain]
    simp [hne, hdigits]

theorem scalar_of_shows {text : List Char} {x : Bool → Binary64} (h : Shows text x)
    (negative : Bool) (hrest : Ends rest) :
    scalar (sign negative ++ text ++ rest) = .ok (.real (x negative), rest) := by
  obtain ⟨whole, tail, rfl, hwhole, hnumber⟩ := h
  obtain ⟨hdigit, hvalue⟩ := hnumber negative rest (sign negative ++ (whole ++ (tail ++ rest))) hrest
  rw [List.append_assoc, List.append_assoc, scalar_number hwhole hdigit, hvalue]

theorem isWhole_toDigits (n : Nat) : IsWhole (Nat.toDigits 10 n) := by
  rcases Nat.eq_zero_or_pos n with rfl | hn
  · exact .inl rfl
  · refine .inr ⟨Nat.toDigits_ne_nil, fun hzero => ?_,
      fun c hc => Numeral.isDigit_of_mem_toDigits hc⟩
    cases hdigits : Nat.toDigits 10 n with
    | nil => exact Nat.toDigits_ne_nil hdigits
    | cons c r =>
      rw [hdigits] at hzero
      cases Option.some.inj hzero
      exact Numeral.toDigits_ne_zero_cons hn r hdigits

theorem toString_int (n : Int) :
    (toString n).toList = sign (decide (n < 0)) ++ Nat.toDigits 10 n.natAbs := by
  cases n with
  | ofNat n =>
    have hsign : decide (Int.ofNat n < 0) = false := decide_eq_false (Int.not_lt.2 (Int.natCast_nonneg n))
    rw [hsign]
    exact String.toList_ofList
  | negSucc n =>
    have hsign : decide (Int.negSucc n < 0) = true := decide_eq_true (Int.negSucc_lt_zero n)
    rw [hsign]
    change ("-" ++ Nat.repr (n + 1)).toList = _
    rw [String.toList_append]
    exact congrArg ('-' :: ·) String.toList_ofList

theorem scalar_int {n : Int} (hlen : (Nat.toDigits 10 n.natAbs).length ≤ digitLimit)
    (hrest : Ends rest) : scalar ((toString n).toList ++ rest) = .ok (.int n, rest) := by
  rw [toString_int, List.append_assoc, scalar_number (isWhole_toDigits _) hrest.noDigit,
    number_int hlen hrest, Numeral.value_toDigits]
  congr 3
  split
  · rename_i hneg
    have := of_decide_eq_true hneg
    omega
  · rename_i hneg
    have := of_decide_eq_false (Bool.eq_false_iff.2 hneg)
    omega

theorem exists_shows {m : Nat} (hx : (Binary64.finite negative m e).isNormal = true) :
    ∃ text x, Binary64.chars (.finite negative m e) = sign negative ++ text ∧ Shows text x ∧
      x negative = .finite negative m e := by
  rcases Nat.eq_zero_or_pos m with rfl | hm
  · refine ⟨_, _, rfl, shows_zero, ?_⟩
    obtain ⟨-, -, -, hform⟩ := Binary64.isNormal_finite.1 hx
    rw [hform.resolve_left (by omega)]
    rfl
  · obtain ⟨digits, point, hshortest, hne, hdigits, hzero, hreads⟩ :=
      Binary64.exists_shortest (b := e) (m := m) (by exact hx) hm
    refine ⟨_, _, ?_, shows_layout hne hdigits hzero point, hreads negative⟩
    rw [Binary64.chars, if_neg (Nat.ne_of_gt hm), hshortest]
    rfl

/-- Numbers that are kept in the one form are read back. -/
theorem scalar_real {x : Binary64} (hx : x.isNormal = true) (hrest : Ends rest) :
    scalar (writtenReal x ++ rest) = .ok (.real x, rest) := by
  cases x with
  | nan => rfl
  | infinity negative => cases negative <;> rfl
  | finite negative m e =>
    obtain ⟨text, x, hchars, hshows, hvalue⟩ := exists_shows hx
    change scalar (Binary64.chars (.finite negative m e) ++ rest) = _
    rw [hchars, scalar_of_shows hshows negative hrest, hvalue]

/-! The character that a word or a number begins with. -/

def isPlain (c : Char) : Bool :=
  !isSpace c && !(['\x22', '[', '\x7b', ']', '\x7d', '\ufeff'].contains c)

theorem isPlain_of_isDigit {c : Char} (hc : c.isDigit = true) : isPlain c = true := by
  have hne : ∀ d : Char, d.isDigit = false → (c == d) = false := by
    intro d hd
    rw [beq_eq_false_iff_ne]
    rintro rfl
    rw [hc] at hd
    cases hd
  simp only [isPlain, isSpace, ← beq_eq_decide, List.contains_cons, List.contains_nil]
  rw [hne ' ' rfl, hne '\t' rfl, hne '\n' rfl, hne '\r' rfl, hne '\x22' rfl, hne '[' rfl,
    hne '\x7b' rfl, hne ']' rfl, hne '\x7d' rfl, hne '\ufeff' rfl]
  rfl

theorem exists_sign_append (hwhole : IsWhole whole) (negative : Bool) (tail : List Char) :
    ∃ c r, sign negative ++ (whole ++ tail) = c :: r ∧ isPlain c = true := by
  obtain ⟨c, r, rfl, hc⟩ := isDigit_head hwhole
  cases negative with
  | true => exact ⟨'-', c :: r ++ tail, rfl, by decide⟩
  | false => exact ⟨c, r ++ tail, rfl, isPlain_of_isDigit hc⟩

theorem exists_toString_int (n : Int) : ∃ c r, (toString n).toList = c :: r ∧ isPlain c = true := by
  obtain ⟨c, r, htext, hc⟩ := exists_sign_append (isWhole_toDigits n.natAbs) (decide (n < 0)) []
  rw [List.append_nil] at htext
  exact ⟨c, r, (toString_int n).trans htext, hc⟩

theorem exists_writtenReal {x : Binary64} (hx : x.isNormal = true) :
    ∃ c r, writtenReal x = c :: r ∧ isPlain c = true := by
  cases x with
  | nan => exact ⟨'N', ['a', 'N'], rfl, by decide⟩
  | infinity negative =>
    cases negative with
    | true => exact ⟨'-', "Infinity".toList, rfl, by decide⟩
    | false => exact ⟨'I', "nfinity".toList, rfl, by decide⟩
  | finite negative m e =>
    obtain ⟨text, x, hchars, ⟨whole, tail, rfl, hwhole, -⟩, -⟩ := exists_shows hx
    obtain ⟨c, r, htext, hc⟩ := exists_sign_append hwhole negative tail
    exact ⟨c, r, hchars.trans htext, hc⟩

/-! The characters of numbers. -/

def isFigure (c : Char) : Bool :=
  0x20 < c.toNat && c.toNat < 0x5b || 0x60 < c.toNat && c.toNat < 0x7b

def Figures (cs : List Char) : Prop := ∀ c ∈ cs, isFigure c = true

instance (cs : List Char) : Decidable (Figures cs) := List.decidableBAll ..

theorem figures_append {cs ds : List Char} (hcs : Figures cs) (hds : Figures ds) :
    Figures (cs ++ ds) := List.forall_mem_append.2 ⟨hcs, hds⟩

theorem figures_cons {c : Char} {cs : List Char} (hc : isFigure c = true) (hcs : Figures cs) :
    Figures (c :: cs) := List.forall_mem_cons.2 ⟨hc, hcs⟩

theorem figures_digits (h : ∀ c ∈ digits, c.isDigit = true) : Figures digits := by
  intro c hc
  obtain ⟨hlow, hhigh⟩ := Numeral.toNat_of_isDigit (h c hc)
  simp only [isFigure, Bool.or_eq_true, Bool.and_eq_true, decide_eq_true_eq]
  omega

theorem figures_zeros (k : Nat) : Figures (List.replicate k '0') :=
  figures_digits isDigit_of_mem_zeros

theorem figures_sign (negative : Bool) : Figures (sign negative) := by
  cases negative <;> decide

theorem figures_int (n : Int) : Figures (toString n).toList := by
  rw [toString_int]
  exact figures_append (figures_sign _)
    (figures_digits fun _ hc => Numeral.isDigit_of_mem_toDigits hc)

theorem figures_exponentText (e : Int) : Figures (Binary64.exponentText e) := by
  change Figures ((if e < 0 then '-' else '+') :: padded e.natAbs)
  refine figures_cons ?_ (figures_digits (isDigit_of_mem_padded _))
  split
  · decide
  · decide

theorem figures_layout (h : Figures digits) (point : Int) :
    Figures (Binary64.layout digits point) := by
  have htake (k : Nat) : Figures (digits.take k) := fun c hc => h c (List.mem_of_mem_take hc)
  have hdrop (k : Nat) : Figures (digits.drop k) := fun c hc => h c (List.mem_of_mem_drop hc)
  unfold Binary64.layout
  split
  · split
    · exact figures_cons (by decide)
        (figures_cons (by decide) (figures_append (figures_zeros _) h))
    · refine figures_append (figures_append (htake _) (figures_zeros _))
        (figures_cons (by decide) ?_)
      split
      · decide
      · exact hdrop _
  · refine figures_append (figures_append (htake 1) ?_)
      (figures_cons (by decide) (figures_exponentText _))
    split
    · exact List.forall_mem_nil _
    · exact figures_cons (by decide) (hdrop 1)

theorem isDigit_of_mem_strip {c : Char} (hdigits : ∀ c ∈ digits, c.isDigit = true)
    (hc : c ∈ Numeral.strip digits) : c.isDigit = true := by
  obtain ⟨k, hk⟩ := Numeral.exists_strip digits
  exact hdigits c (by rw [hk]; exact List.mem_append_left _ hc)

theorem figures_chars (x : Binary64) : Figures x.chars := by
  cases x with
  | nan => decide
  | infinity negative => cases negative <;> decide
  | finite negative m e =>
    refine figures_append (figures_sign negative) ?_
    split
    · decide
    · refine figures_layout (figures_digits fun c hc => ?_) _
      exact isDigit_of_mem_strip (fun _ hc => Numeral.isDigit_of_mem_toDigits hc) hc

theorem figures_real (x : Binary64) : Figures (writtenReal x) := by
  cases x with
  | nan => decide
  | infinity negative => cases negative <;> decide
  | finite negative m e => exact figures_chars (.finite negative m e)

/-- Numbers stand on one line. -/
theorem return_not_mem_of_figures {cs : List Char} (h : Figures cs) : '\r' ∉ cs :=
  fun hmem => absurd (h _ hmem) (by decide)

end UmlPress.Json.Reader
