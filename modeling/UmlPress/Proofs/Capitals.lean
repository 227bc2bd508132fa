import UmlPress.Proofs.Snippets

/-!
# Names that are formatted twice

The upper case of a character begins with a character that is its own upper case, although it
may go on with others. So formatting a name that is formatted changes nothing, and the name of
a type after its prefix, the fragment in an accessor and the name in an import are one text.
-/
namespace UmlPress
namespace Text

/-! A set of characters can be the bits of one number, so that two sets are compared at once. -/

def stride (first step : Nat) : Nat → Nat
  | 0 => 0
  | count + 1 => 1 <<< first ||| stride (first + step) step count

theorem testBit_stride {first step count n : Nat} :
    (stride first step count).testBit n = true ↔ ∃ i < count, n = first + i * step := by
  induction count generalizing first with
  | zero => simp [stride]
  | succ count ih =>
    rw [stride, Nat.testBit_or, Bool.or_eq_true, ih, Nat.one_shiftLeft, Nat.testBit_two_pow,
      decide_eq_true_iff]
    constructor
    · rintro (rfl | ⟨i, hi, rfl⟩)
      · exact ⟨0, Nat.succ_pos _, by rw [Nat.zero_mul, Nat.add_zero]⟩
      · exact ⟨i + 1, Nat.succ_lt_succ hi, by rw [Nat.succ_mul]; omega⟩
    · rintro ⟨_ | i, hi, rfl⟩
      · exact .inl (by rw [Nat.zero_mul, Nat.add_zero])
      · exact .inr ⟨i, Nat.lt_of_succ_lt_succ hi, by rw [Nat.succ_mul]; omega⟩

def union (sets : List Nat) : Nat := sets.foldr (· ||| ·) 0

theorem testBit_union {sets : List Nat} {n : Nat} :
    (union sets).testBit n = true ↔ ∃ set ∈ sets, set.testBit n = true := by
  induction sets with
  | nil => simp [union]
  | cons set r ih =>
    change (set ||| union r).testBit n = true ↔ _
    rw [Nat.testBit_or, Bool.or_eq_true, ih]
    simp only [List.mem_cons, or_and_right, exists_or, exists_eq_left]

namespace CaseRun

def strides (run : CaseRun) : Nat := (run.last - run.first) / run.step

def covered (run : CaseRun) : Nat := stride run.first run.step (run.strides + 1)

def images (run : CaseRun) : Nat :=
  stride (run.first + run.shift).toNat run.step (run.strides + 1)

theorem testBit_of_move? {run : CaseRun} {n m : Nat} (hpositive : 0 < run.first + run.shift)
    (h : run.move? n = some m) :
    run.covered.testBit n = true ∧ run.images.testBit m = true := by
  rw [move?, Option.ite_none_right_eq_some, Option.some.injEq] at h
  obtain ⟨⟨hfirst, hlast, hstep⟩, rfl⟩ := h
  have hstrides : (n - run.first) / run.step < run.strides + 1 :=
    Nat.lt_succ_of_le (Nat.div_le_div_right (Nat.sub_le_sub_right hlast _))
  have hplace : (n - run.first) / run.step * run.step = n - run.first :=
    Nat.div_mul_cancel (Nat.dvd_of_mod_eq_zero hstep)
  exact ⟨testBit_stride.2 ⟨_, hstrides, by omega⟩, testBit_stride.2 ⟨_, hstrides, by omega⟩⟩

end CaseRun

def changed : Nat := union (upperRuns.map (·.covered) ++ upperGroups.map fun g => 1 <<< g.1)

def results : Nat := union (upperRuns.map (·.images) ++ upperGroups.map fun g => 1 <<< g.2.headD 0)

theorem changed_and_results : changed &&& results = 0 := by decide +kernel

theorem positive_upperRuns : ∀ run ∈ upperRuns, 0 < run.first + run.shift := by decide +kernel

theorem ne_nil_upperGroups : ∀ g ∈ upperGroups, g.2 ≠ [] := by decide +kernel

theorem upperChar_eq_self {c : Char} (h : changed.testBit c.toNat = false) : upperChar c = [c] := by
  simp only [← Bool.not_eq_true, changed, testBit_union, List.mem_append, or_and_right, exists_or,
    not_or] at h
  obtain ⟨hruns, hgroups⟩ := h
  have hgroup : upperGroups.find? (fun g => g.1 == c.toNat) = none := by
    rw [List.find?_eq_none]
    intro g hg heq
    refine hgroups ⟨_, List.mem_map_of_mem hg, ?_⟩
    rw [Nat.one_shiftLeft, Nat.testBit_two_pow, decide_eq_true_iff]
    exact beq_iff_eq.1 heq
  have hrun : upperRuns.findSome? (CaseRun.move? c.toNat) = none := by
    rw [List.findSome?_eq_none_iff]
    intro run hrun
    rw [Option.eq_none_iff_forall_ne_some]
    intro m hm
    exact hruns ⟨_, List.mem_map_of_mem hrun,
      (CaseRun.testBit_of_move? (positive_upperRuns run hrun) hm).1⟩
  rw [upperChar, hgroup, shifted, hrun]

/-- What upper cases begin with is its own upper case. -/
theorem upperChar_of_results {n : Nat} (h : results.testBit n = true) :
    upperChar (Char.ofNat n) = [Char.ofNat n] := by
  apply upperChar_eq_self
  rcases toNat_ofNat_eq_or n with hvalid | hzero
  · have hboth := congrArg (Nat.testBit · n) changed_and_results
    simp only [Nat.testBit_and, h, Bool.and_true, Nat.zero_testBit] at hboth
    rw [hvalid, hboth]
  · rw [hzero]
    decide +kernel

/-- The upper case of a character begins with one that is its own upper case. -/
theorem exists_upperChar_eq_cons (c : Char) :
    ∃ d r, upperChar c = d :: r ∧ upperChar d = [d] := by
  cases hgroup : upperGroups.find? fun g => g.1 == c.toNat with
  | some g =>
    have hmem := List.mem_of_find?_eq_some hgroup
    obtain ⟨n, rest, hrest⟩ := List.exists_cons_of_ne_nil (ne_nil_upperGroups g hmem)
    refine ⟨Char.ofNat n, rest.map Char.ofNat, ?_, upperChar_of_results ?_⟩
    · rw [upperChar, hgroup]
      dsimp only
      rw [hrest, List.map_cons]
    · refine testBit_union.2 ⟨_, List.mem_append_right _ (List.mem_map_of_mem hmem), ?_⟩
      rw [hrest, List.headD_cons, Nat.one_shiftLeft, Nat.testBit_two_pow_self]
  | none =>
    cases hrun : upperRuns.findSome? (CaseRun.move? c.toNat) with
    | some m =>
      obtain ⟨run, hmem, hmove⟩ := List.exists_of_findSome?_eq_some hrun
      have himage := (CaseRun.testBit_of_move? (positive_upperRuns run hmem) hmove).2
      refine ⟨Char.ofNat m, [], ?_, upperChar_of_results ?_⟩
      · rw [upperChar, hgroup, shifted, hrun]
      · exact testBit_union.2 ⟨_, List.mem_append_left _ (List.mem_map_of_mem hmem), himage⟩
    | none =>
      have hself : upperChar c = [c] := by rw [upperChar, hgroup, shifted, hrun]
      exact ⟨c, [], hself, hself⟩

theorem capitalize_capitalize (s : List Char) : capitalize (capitalize s) = capitalize s := by
  cases s with
  | nil => rfl
  | cons c r =>
    obtain ⟨d, rest, hupper, hown⟩ := exists_upperChar_eq_cons c
    rw [capitalize_cons, hupper, List.cons_append, capitalize_cons, hown]
    rfl

end Text

theorem Layout.capitalized_capitalized (s : String) :
    capitalized (capitalized s) = capitalized s := by
  rw [capitalized, capitalized, String.toList_ofList, Text.capitalize_capitalize]

namespace Naming
open Emit Layout

/-- Wherever a name is formatted, the result is one text. -/
structure FormatsAs (raw formatted : String) : Prop where
  name : formatName (.text raw) = .ok (.text formatted)
  typeName : ∀ lead, typeName lead (.text raw) = .ok (lead ++ formatted)
  accessor : accessorFragment (.text raw) = .ok (.text formatted)
  imported : ∀ (w : Workshop) (path : List String), w.Renders "import.dart.j2"
    [("path", .list (path.map .plain)), ("name", .ofJson (.text raw))]
    ("from " ++ ".".intercalate path ++ " import " ++ formatted)

theorem formatsAs_capitalized (s : String) : FormatsAs s (capitalized s) where
  name := formatName_text s
  typeName lead := by
    rw [typeName, formatName_text]
    rfl
  accessor := formatName_text s
  imported w path := w.renders_import path s

/-- A formatted name is the upper case of the first character and then the rest. It is the same
text at each place, and formatting it again changes nothing at any of them. -/
theorem formatting_settles (s : String) :
    ((capitalized s).toList = match s.toList with
      | [] => []
      | c :: r => Text.upperChar c ++ r) ∧
    FormatsAs s (capitalized s) ∧ FormatsAs (capitalized s) (capitalized s) := by
  refine ⟨?_, formatsAs_capitalized s, ?_⟩
  · rw [capitalized, String.toList_ofList]
    cases s.toList <;> rfl
  · have hagain := formatsAs_capitalized (capitalized s)
    rwa [capitalized_capitalized] at hagain

/-- One character may become several, and only the first of them is looked at again. -/
example : capitalized "ŉame" = "ʼName" ∧ capitalized "ʼName" = "ʼName" := by decide +kernel

end Naming
end UmlPress
