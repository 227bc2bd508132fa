import UmlPress.Path

/-!
# Plain names

A plain name is kept as it is when it is put below a path, and leads one step
down from there.
-/
namespace UmlPress.Path

/-- A name of a file or a directory that is no way to anywhere else. -/
def IsPlain (name : String) : Prop :=
  name ≠ "" ∧ name ≠ "." ∧ name ≠ ".." ∧ '/' ∉ name.toList ∧ '\x00' ∉ name.toList

instance (name : String) : Decidable (IsPlain name) := by
  unfold IsPlain
  infer_instance

def below (p : Path) (names : List String) : Path := ⟨p.root, p.parts ++ names⟩

theorem below_nil (p : Path) : p.below [] = p := by simp [below]

theorem below_inj {p : Path} {xs ys : List String} : p.below xs = p.below ys ↔ xs = ys := by
  simp [below]

theorem components_of_not_mem {cs : List Char} (h : '/' ∉ cs) : components cs = [cs] := by
  induction cs with
  | nil => rfl
  | cons c r ih =>
    rw [List.mem_cons, not_or] at h
    rw [components]
    · rw [ih h.2]
    · exact fun hc => h.1 hc.symm

theorem rootOf_of_not_mem {cs : List Char} (h : '/' ∉ cs) : rootOf cs = .none := by
  cases cs with
  | nil => rfl
  | cons c r =>
    rw [List.mem_cons, not_or] at h
    unfold rootOf
    split <;> simp_all

theorem ofString_plain {name : String} (h : IsPlain name) : ofString name = ⟨.none, [name]⟩ := by
  obtain ⟨hempty, hdot, -, hslash, -⟩ := h
  unfold ofString ofChars
  rw [rootOf_of_not_mem hslash, components_of_not_mem hslash]
  have hkeeps : keeps name.toList = true := by
    have hdots : name.toList ≠ ['.'] := fun h => hdot (String.toList_inj.1 h)
    simp [keeps, hempty, hdots]
  simp [hkeeps]

theorem child_plain {p : Path} {name : String} (h : IsPlain name) :
    p.child name = p.below [name] := by
  rw [child, ofString_plain h]
  exact join_of_root_none rfl

theorem below_child {p : Path} {names : List String} {name : String} (h : IsPlain name) :
    (p.below names).child name = p.below (names ++ [name]) := by
  rw [child_plain h]
  simp [below]

theorem mem_intercalate {c : Char} {names : List String}
    (h : c ∈ ("/".intercalate names).toList) : c = '/' ∨ ∃ n ∈ names, c ∈ n.toList := by
  induction names with
  | nil => simp at h
  | cons n r ih =>
    by_cases hr : r = []
    · subst hr
      rw [String.intercalate_singleton] at h
      exact .inr ⟨n, List.mem_cons_self, h⟩
    · rw [String.intercalate_cons_of_ne_nil hr, String.toList_append, String.toList_append,
        List.mem_append, List.mem_append] at h
      rcases h with (h | h) | h
      · exact .inr ⟨n, List.mem_cons_self, h⟩
      · exact .inl (by simpa using h)
      · rcases ih h with hc | ⟨m, hm, hc⟩
        · exact .inl hc
        · exact .inr ⟨m, List.mem_cons_of_mem _ hm, hc⟩

theorem Root.eq_slash_of_mem_text {c : Char} {r : Root} (h : c ∈ (Root.text r).toList) :
    c = '/' := by
  cases r <;> simp_all [Root.text]

/-- A character of a path further down is one of the path, or of the names below
it, or parts them. -/
theorem mem_text_below {c : Char} {p : Path} {names : List String}
    (h : c ∈ (p.below names).text.toList) (hne : names ≠ []) :
    c ∈ p.text.toList ∨ c = '/' ∨ ∃ n ∈ names, c ∈ n.toList := by
  have htext : (p.below names).text =
      Root.text p.root ++ "/".intercalate (p.parts ++ names) := by
    simp [text, below, hne]
  rw [htext, String.toList_append, List.mem_append] at h
  by_cases hp : p.parts = []
  · rw [hp, List.nil_append] at h
    rcases h with h | h
    · exact .inr (.inl (Root.eq_slash_of_mem_text h))
    · exact .inr (mem_intercalate h)
  · rw [String.intercalate_append_of_ne_nil hp hne, String.toList_append, String.toList_append,
      List.mem_append, List.mem_append] at h
    rcases h with h | (h | h) | h
    · exact .inr (.inl (Root.eq_slash_of_mem_text h))
    · refine .inl ?_
      simp only [text, hp, and_false, if_false, String.toList_append, List.mem_append]
      exact .inr h
    · exact .inr (.inl (by simpa using h))
    · exact .inr (mem_intercalate h)

end UmlPress.Path
