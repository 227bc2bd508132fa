import UmlPress.Text.Blank
import UmlPress.Text.Case

/-!
# Texts of one line

A text without line breaks is a line. Lines that are joined by line feeds, or
that are each ended by one, are found again when the text is split, and what a
text is split into are lines. A name stays a line when its first character is put
in upper case.
-/
namespace UmlPress

namespace Text

def Unbroken (s : List Char) : Prop := ∀ c ∈ s, isBreak c = false

theorem unbroken_append {s t : List Char} : Unbroken (s ++ t) ↔ Unbroken s ∧ Unbroken t :=
  List.forall_mem_append

theorem lines_cons_of_not_isBreak {c : Char} (h : isBreak c = false) (s : List Char) :
    lines (c :: s) = consLine c (lines s) := by
  rw [lines, h]
  · rfl
  · rintro r rfl
    cases h

theorem lines_newline (s : List Char) : lines ('\n' :: s) = [] :: lines s := rfl

theorem lines_append_newline {s : List Char} (h : Unbroken s) (t : List Char) :
    lines (s ++ '\n' :: t) = s :: lines t := by
  induction s with
  | nil => exact lines_newline t
  | cons c r ih =>
    obtain ⟨hc, hr⟩ := List.forall_mem_cons.1 h
    rw [List.cons_append, lines_cons_of_not_isBreak hc, ih hr, consLine]

theorem lines_of_unbroken {s : List Char} (h : Unbroken s) (hs : s ≠ []) : lines s = [s] := by
  induction s with
  | nil => exact absurd rfl hs
  | cons c r ih =>
    obtain ⟨hc, hr⟩ := List.forall_mem_cons.1 h
    rw [lines_cons_of_not_isBreak hc]
    cases r with
    | nil => rfl
    | cons d r => rw [ih hr (List.cons_ne_nil d r), consLine]

theorem unbroken_of_mem_consLine {c : Char} (hc : isBreak c = false) {ls : List (List Char)}
    (h : ∀ l ∈ ls, Unbroken l) : ∀ l ∈ consLine c ls, Unbroken l := by
  cases ls with
  | nil => simpa [consLine, Unbroken] using hc
  | cons l ls =>
    obtain ⟨hl, hls⟩ := List.forall_mem_cons.1 h
    exact List.forall_mem_cons.2 ⟨List.forall_mem_cons.2 ⟨hc, hl⟩, hls⟩

theorem unbroken_of_mem_lines {s : List Char} : ∀ l ∈ lines s, Unbroken l := by
  have hempty : Unbroken [] := List.forall_mem_nil _
  fun_induction lines s with
  | case1 => simp
  | case2 r ih => exact List.forall_mem_cons.2 ⟨hempty, ih⟩
  | case3 c r _ hc ih => exact List.forall_mem_cons.2 ⟨hempty, ih⟩
  | case4 c r _ hc ih => exact unbroken_of_mem_consLine (by simpa using hc) ih

theorem lines_ne_nil {s : List Char} (h : s ≠ []) : lines s ≠ [] := by
  fun_cases lines s with
  | case1 => exact absurd rfl h
  | case2 r => exact List.cons_ne_nil _ _
  | case3 c r => exact List.cons_ne_nil _ _
  | case4 c r => cases lines r <;> exact List.cons_ne_nil _ _

/-- No upper case of several characters has a line break in it. -/
theorem not_isBreak_upperGroups :
    ∀ g ∈ upperGroups, ∀ n ∈ g.2, isBreak (Char.ofNat n) = false := by decide +kernel

def breakRanges : List (Nat × Nat) := [(0xa, 0xd), (0x1c, 0x1e), (0x85, 0x85), (0x2028, 0x2029)]

def CaseRun.IsClear (run : CaseRun) : Prop :=
  ∀ b ∈ breakRanges, (run.last : Int) + run.shift < b.1 ∨ (b.2 : Int) < run.first + run.shift

instance (run : CaseRun) : Decidable run.IsClear := List.decidableBAll ..

theorem isClear_upperRuns : ∀ run ∈ upperRuns, run.IsClear := by decide +kernel

theorem toNat_ofNat_eq_or (n : Nat) : (Char.ofNat n).toNat = n ∨ (Char.ofNat n).toNat = 0 := by
  by_cases h : n.isValidChar
  · rw [Char.ofNat, dif_pos h]
    exact .inl rfl
  · rw [Char.ofNat, dif_neg h]
    exact .inr rfl

theorem not_isBreak_of_move? {run : CaseRun} (hrun : run.IsClear) {n m : Nat}
    (h : run.move? n = some m) : isBreak (Char.ofNat m) = false := by
  rw [CaseRun.move?] at h
  split at h
  case isFalse => cases h
  case isTrue hn =>
    obtain ⟨hfirst, hlast, -⟩ := hn
    have hm := Option.some.inj h
    simp only [CaseRun.IsClear, breakRanges, List.forall_mem_cons] at hrun
    simp only [isBreak, within, List.any_cons, List.any_nil, Bool.or_false, Bool.or_eq_false_iff,
      Bool.and_eq_false_iff, decide_eq_false_iff_not]
    rcases toNat_ofNat_eq_or m with h | h <;> rw [h] <;> omega

theorem unbroken_upperChar {c : Char} (h : isBreak c = false) : Unbroken (upperChar c) := by
  rw [upperChar]
  split
  case h_1 g hg =>
    intro d hd
    obtain ⟨n, hn, rfl⟩ := List.mem_map.1 hd
    exact not_isBreak_upperGroups g (List.mem_of_find?_eq_some hg) n hn
  case h_2 =>
    refine List.forall_mem_singleton.2 ?_
    rw [shifted]
    split
    case h_1 n hn =>
      obtain ⟨run, hrun, hmove⟩ := List.exists_of_findSome?_eq_some hn
      exact not_isBreak_of_move? (isClear_upperRuns run hrun) hmove
    case h_2 => exact h

theorem unbroken_capitalize {s : List Char} (h : Unbroken s) : Unbroken (capitalize s) := by
  cases s with
  | nil => exact h
  | cons c r =>
    obtain ⟨hc, hr⟩ := List.forall_mem_cons.1 h
    exact unbroken_append.2 ⟨unbroken_upperChar hc, hr⟩

end Text

def IsLine (s : String) : Prop := Text.Unbroken s.toList

instance (s : String) : Decidable (IsLine s) := List.decidableBAll ..

@[simp]
theorem isLine_append {s t : String} : IsLine (s ++ t) ↔ IsLine s ∧ IsLine t := by
  rw [IsLine, String.toList_append]
  exact Text.unbroken_append

/-- What holds of the empty text and is kept when texts are put together holds of listed texts. -/
theorem intercalate_of_append {K : String → Prop} (hempty : K "")
    (happend : ∀ s t, K s → K t → K (s ++ t)) {separator : String} (h : K separator)
    {ts : List String} (hts : ∀ t ∈ ts, K t) : K (separator.intercalate ts) := by
  induction ts with
  | nil => exact hempty
  | cons t r ih =>
    obtain ⟨ht, hr⟩ := List.forall_mem_cons.1 hts
    cases r with
    | nil => rwa [String.intercalate_singleton]
    | cons u r =>
      rw [String.intercalate_cons_cons]
      exact happend _ _ (happend _ _ ht h) (ih hr)

theorem isLine_of_mem_splitLines {s l : String} (h : l ∈ splitLines s) : IsLine l := by
  obtain ⟨cs, hcs, rfl⟩ := List.mem_map.1 h
  rw [IsLine, String.toList_ofList]
  exact Text.unbroken_of_mem_lines cs hcs

theorem splitLines_ne_nil {s : String} (h : s ≠ "") : splitLines s ≠ [] := by
  rw [splitLines, ne_eq, List.map_eq_nil_iff]
  exact Text.lines_ne_nil (by simpa using h)

theorem splitLines_newline {l : String} (h : IsLine l) (t : String) :
    splitLines (l ++ ("\n" ++ t)) = l :: splitLines t := by
  have hl : (l ++ ("\n" ++ t)).toList = l.toList ++ '\n' :: t.toList := by simp
  rw [splitLines, hl, Text.lines_append_newline h, List.map_cons, String.ofList_toList]
  rfl

theorem splitLines_of_isLine {l : String} (h : IsLine l) (hne : l ≠ "") : splitLines l = [l] := by
  rw [splitLines, Text.lines_of_unbroken h (by simpa using hne), List.map_singleton,
    String.ofList_toList]

/-- Lines that are each ended by a line feed are found again. -/
theorem splitLines_join {ls : List String} (h : ∀ l ∈ ls, IsLine l) :
    splitLines (String.join (ls.map (· ++ "\n"))) = ls := by
  induction ls with
  | nil => rfl
  | cons l r ih =>
    obtain ⟨hl, hr⟩ := List.forall_mem_cons.1 h
    rw [List.map_cons, String.join_cons, String.append_assoc, splitLines_newline hl, ih hr]

/-- Lines with a line feed between them are found again, unless the last one is
empty. -/
theorem splitLines_intercalate {ls : List String} (h : ∀ l ∈ ls, IsLine l)
    (hlast : ls.getLast? ≠ some "") : splitLines ("\n".intercalate ls) = ls := by
  induction ls with
  | nil => rfl
  | cons l r ih =>
    obtain ⟨hl, hr⟩ := List.forall_mem_cons.1 h
    cases r with
    | nil =>
      rw [String.intercalate_singleton]
      exact splitLines_of_isLine hl (by simpa using hlast)
    | cons m r =>
      rw [String.intercalate_cons_cons, String.append_assoc, splitLines_newline hl, ih hr]
      simpa using hlast

end UmlPress
