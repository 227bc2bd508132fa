import UmlPress.Emit.Report
import UmlPress.Proofs.Formed
import UmlPress.Proofs.Layout
import UmlPress.Proofs.Parts

/-!
# Where signs come from

A bracket is a sign to a console, and a null character is one to a file system. A half of a
character is one to both. A text that is put together from given texts has no signs but
theirs: nor are any added when a text is put into upper case, made a path or quoted in a
message. What is quoted may have brackets of its own around it, but no half stands in it.
-/
namespace UmlPress

def IsSign (c : Char) : Prop := c = '[' ∨ c = '\x00' ∨ Text.isHalf c = true

instance (c : Char) : Decidable (IsSign c) := inferInstanceAs (Decidable (_ ∨ _))

def IsUnsigned (s : String) : Prop := ∀ c ∈ s.toList, ¬ IsSign c

instance (s : String) : Decidable (IsUnsigned s) := List.decidableBAll ..

/-- Every sign in a text stands in one of the given texts. -/
def Stems (given : List String) (s : String) : Prop :=
  ∀ c ∈ s.toList, IsSign c → ∃ t ∈ given, c ∈ t.toList

def Whole (given : List String) (s : String) : Prop :=
  (∀ t ∈ given, Text.Encodable t.toList) → Text.Encodable s.toList

variable {given : List String} {s t : String}

namespace Stems

theorem of_mem (h : s ∈ given) : Stems given s := fun _ hc _ => ⟨s, h, hc⟩

theorem of_unsigned (h : IsUnsigned s) : Stems given s := fun c hc hsign => absurd hsign (h c hc)

theorem empty : Stems given "" := of_unsigned (by decide)

/-- The signs of a text stem from where those of a text do that it is part of. -/
theorem of_subset (h : Stems given t) (hsub : ∀ c, IsSign c → c ∈ s.toList → c ∈ t.toList) :
    Stems given s := fun c hc hsign => h c (hsub c hsign hc) hsign

theorem not_mem (h : Stems given s) {c : Char} (hc : IsSign c)
    (hgiven : ∀ t ∈ given, c ∉ t.toList) : c ∉ s.toList := by
  intro hmem
  obtain ⟨t, ht, hmem⟩ := h c hmem hc
  exact hgiven t ht hmem

theorem append (hs : Stems given s) (ht : Stems given t) : Stems given (s ++ t) := by
  intro c hmem hc
  rw [String.toList_append, List.mem_append] at hmem
  exact hmem.elim (hs c · hc) (ht c · hc)

theorem intercalate {separator : String} (h : Stems given separator) {ts : List String}
    (hts : ∀ t ∈ ts, Stems given t) : Stems given (separator.intercalate ts) :=
  intercalate_of_append empty (fun _ _ => append) h hts

theorem number (n : Nat) : Stems given (toString n) := by
  refine of_unsigned fun c hmem hc => ?_
  have hmem : c ∈ Nat.toDigits 10 n := by simpa [toString, Nat.repr] using hmem
  have hdigit := Numeral.toNat_of_isDigit (Numeral.isDigit_of_mem_toDigits hmem)
  rcases hc with rfl | rfl | hc
  · exact absurd hdigit.2 (by decide)
  · exact absurd hdigit.1 (by decide)
  · rw [Text.isHalf_iff] at hc
    omega

/-- Half of a character is a sign. -/
theorem whole (h : Stems given s) : Whole given s := by
  intro hgiven c hc
  by_contra hhalf
  obtain ⟨t, ht, hmem⟩ := h c hc (.inr (.inr (by simpa using hhalf)))
  exact hhalf (hgiven t ht c hmem)

end Stems

namespace Whole

theorem of_encodable (h : Text.Encodable s.toList) : Whole given s := fun _ => h

theorem of_subset (h : Whole given t) (hsub : s.toList ⊆ t.toList) : Whole given s :=
  fun hgiven => (h hgiven).of_subset hsub

theorem append (hs : Whole given s) (ht : Whole given t) : Whole given (s ++ t) := by
  intro hgiven
  rw [String.toList_append]
  exact (hs hgiven).append (ht hgiven)

theorem join {ts : List String} (h : ∀ t ∈ ts, Whole given t) : Whole given (String.join ts) := by
  induction ts with
  | nil => exact of_encodable (by decide)
  | cons t r ih =>
    obtain ⟨ht, hr⟩ := List.forall_mem_cons.1 h
    rw [String.join_cons]
    exact ht.append (ih hr)

end Whole

/-! Upper case. -/

namespace Text

/-- No upper case of several characters has a sign in it. -/
theorem not_isSign_upperGroups :
    ∀ g ∈ upperGroups, ∀ n ∈ g.2, ¬ IsSign (Char.ofNat n) := by decide +kernel

def CaseRun.IsTame (run : CaseRun) : Prop :=
  ((run.last : Int) + run.shift < 0xd800 ∨
    0xdfff < run.first + run.shift ∧ run.last + run.shift < 0x10f800) ∧
  (0 < run.first + run.shift ∧ run.last + run.shift < 0x5b ∨ 0x5b < run.first + run.shift)

instance (run : CaseRun) : Decidable run.IsTame := inferInstanceAs (Decidable (_ ∧ _))

theorem isTame_upperRuns : ∀ run ∈ upperRuns, run.IsTame := by decide +kernel

theorem not_isSign_of_move? {run : CaseRun} (hrun : run.IsTame) {n m : Nat}
    (h : run.move? n = some m) : ¬ IsSign (Char.ofNat m) := by
  rw [CaseRun.move?] at h
  split at h
  case isFalse => cases h
  case isTrue hn =>
    obtain ⟨hfirst, hlast, -⟩ := hn
    have hm := Option.some.inj h
    obtain ⟨hvalid, hsigns⟩ := hrun
    have hnat : (Char.ofNat m).toNat = m := toNat_ofNat (by omega)
    intro hsign
    have hcases : (Char.ofNat m).toNat = 0x5b ∨ (Char.ofNat m).toNat = 0 ∨
        0x10f800 ≤ (Char.ofNat m).toNat :=
      hsign.imp (fun h => by simp [h]) (.imp (fun h => by simp [h]) isHalf_iff.1)
    omega

theorem mem_of_mem_upperChar {c d : Char} (hd : IsSign d) (h : d ∈ upperChar c) : d = c := by
  rw [upperChar] at h
  split at h
  case h_1 g hg =>
    obtain ⟨n, hn, rfl⟩ := List.mem_map.1 h
    exact absurd hd (not_isSign_upperGroups g (List.mem_of_find?_eq_some hg) n hn)
  case h_2 =>
    rw [List.mem_singleton, shifted] at h
    split at h
    case h_1 n hn =>
      obtain ⟨run, hrun, hmove⟩ := List.exists_of_findSome?_eq_some hn
      subst h
      exact absurd hd (not_isSign_of_move? (isTame_upperRuns run hrun) hmove)
    case h_2 => exact h

theorem mem_of_mem_capitalize {d : Char} (hd : IsSign d) {cs : List Char}
    (h : d ∈ capitalize cs) : d ∈ cs := by
  cases cs with
  | nil => exact h
  | cons c r =>
    rcases List.mem_append.1 h with h | h
    · rw [mem_of_mem_upperChar hd h]
      exact List.mem_cons_self
    · exact List.mem_cons_of_mem _ h

end Text

theorem Whole.capitalized (h : Whole given s) : Whole given (Layout.capitalized s) := by
  intro hgiven c hc
  by_contra hhalf
  rw [Layout.capitalized, String.toList_ofList] at hc
  exact hhalf (h hgiven c (Text.mem_of_mem_capitalize (.inr (.inr (by simpa using hhalf))) hc))

theorem composes_whole (given : List String) : Layout.Composes (Whole given) where
  plain h := .of_encodable fun c hc => Text.isHalf_of_lt (by have := h c hc; omega)
  append {s t} := by
    refine ⟨fun h => ⟨h.of_subset ?_, h.of_subset ?_⟩, fun h => h.1.append h.2⟩ <;> simp
  capitalized := .capitalized

/-! Lines of a text. -/

namespace Text

theorem trimEndBy_subset (drop : Char → Bool) (s : List Char) : trimEndBy drop s ⊆ s := by
  induction s with
  | nil => exact List.Subset.refl _
  | cons c r ih =>
    rw [trimEndBy]
    split
    · split <;> simp
    · exact List.cons_subset_cons c ih

theorem trim_subset (s : List Char) : trim s ⊆ s :=
  List.Subset.trans (trimEndBy_subset _ _) (List.dropWhile_sublist _).subset

theorem subset_of_mem_consLine {c : Char} {s l : List Char} {ls : List (List Char)}
    (h : ∀ l ∈ ls, l ⊆ s) (hl : l ∈ consLine c ls) : l ⊆ c :: s := by
  cases ls with
  | nil =>
    rw [consLine, List.mem_singleton] at hl
    simp [hl]
  | cons m r =>
    rcases List.mem_cons.1 hl with rfl | hl
    · exact List.cons_subset_cons c (h m List.mem_cons_self)
    · exact List.subset_cons_of_subset c (h l (List.mem_cons_of_mem _ hl))

/-- Characters that are put in front of a text do not take any away from it. -/
theorem subset_of_mem_empty_cons {s t l : List Char} {ls : List (List Char)} (hsub : s ⊆ t)
    (h : ∀ l ∈ ls, l ⊆ s) (hl : l ∈ [] :: ls) : l ⊆ t := by
  rcases List.mem_cons.1 hl with rfl | hl
  · exact List.nil_subset t
  · exact List.Subset.trans (h l hl) hsub

theorem subset_of_mem_lines {s l : List Char} (h : l ∈ lines s) : l ⊆ s := by
  fun_induction lines s generalizing l with
  | case1 => cases h
  | case2 r ih => exact subset_of_mem_empty_cons (by simp) (fun l => ih) h
  | case3 c r _ _ ih => exact subset_of_mem_empty_cons (by simp) (fun l => ih) h
  | case4 c r _ _ ih => exact subset_of_mem_consLine (fun l => ih) h

end Text

theorem Whole.trimText (h : Whole given s) : Whole given (trimText s) :=
  h.of_subset (by rw [UmlPress.trimText, String.toList_ofList]; exact Text.trim_subset _)

theorem Whole.splitLines (h : Whole given s) : ∀ l ∈ splitLines s, Whole given l := by
  intro l hl
  obtain ⟨cs, hcs, rfl⟩ := List.mem_map.1 hl
  exact h.of_subset (by rw [String.toList_ofList]; exact Text.subset_of_mem_lines hcs)

theorem Stems.typeName {lead : String} {raw : Json} {name : String} (hlead : Stems given lead)
    (h : raw.IsTextOf (Stems given)) (hname : Naming.typeName lead raw = .ok name) :
    Stems given name := by
  obtain ⟨s, rfl, hs⟩ := h
  unfold Naming.typeName at hname
  rw [Naming.formatName_text] at hname
  cases hname
  refine hlead.append (hs.of_subset fun c hc hmem => ?_)
  exact Text.mem_of_mem_capitalize hc (by simpa [Json.display] using hmem)

/-! Paths. -/

namespace Path

theorem mem_components {cs piece : List Char} {c : Char} (hp : piece ∈ components cs)
    (hc : c ∈ piece) : c ∈ cs := by
  fun_induction components cs generalizing piece with
  | case1 => simp_all
  | case2 r ih =>
    rcases List.mem_cons.1 hp with rfl | hp
    · cases hc
    · exact List.mem_cons_of_mem _ (ih hp hc)
  | case3 d r _ hnil ih => simp_all
  | case4 d r _ p ps heq ih =>
    rw [heq] at ih
    rcases List.mem_cons.1 hp with rfl | hp
    · rcases List.mem_cons.1 hc with rfl | hc
      · exact List.mem_cons_self
      · exact List.mem_cons_of_mem _ (ih List.mem_cons_self hc)
    · exact List.mem_cons_of_mem _ (ih (List.mem_cons_of_mem _ hp) hc)

/-- The signs in the components of a path stand in given texts. -/
def Stems (given : List String) (p : Path) : Prop := ∀ n ∈ p.parts, UmlPress.Stems given n

variable {p : Path}

theorem stems_ofString (h : UmlPress.Stems given s) : (ofString s).Stems given := by
  intro n hn
  obtain ⟨piece, hpiece, rfl⟩ := List.mem_map.1 hn
  refine h.of_subset fun c _ hc => ?_
  rw [String.toList_ofList] at hc
  exact mem_components (List.mem_filter.1 hpiece).1 hc

theorem stems_child (hp : p.Stems given) (h : UmlPress.Stems given s) :
    (p.child s).Stems given := by
  have hs := stems_ofString h
  unfold child join
  split
  · exact List.forall_mem_append.2 ⟨hp, hs⟩
  · exact hs

theorem stems_text (h : p.Stems given) : UmlPress.Stems given p.text := by
  unfold text
  split
  · exact .of_unsigned (by decide)
  · refine .append ?_ (.intercalate (.of_unsigned (by decide)) h)
    cases p.root <;> exact .of_unsigned (by decide)

end Path

/-! Quoted texts. -/

namespace Text

theorem encodable_escapeNumber (n : Nat) : Encodable (escapeNumber n) := by
  unfold escapeNumber
  split
  · exact encodable_cons.2 ⟨by decide, encodable_cons.2 ⟨by decide, encodable_hex 2 n⟩⟩
  · split
    · exact encodable_cons.2 ⟨by decide, encodable_cons.2 ⟨by decide, encodable_hex 4 n⟩⟩
    · exact encodable_cons.2 ⟨by decide, encodable_cons.2 ⟨by decide, encodable_hex 8 n⟩⟩

/-- The characters that halves are held by have no shape. -/
theorem isHalf_of_isPrintable {c : Char} (h : isPrintable c = true) : isHalf c = false := by
  rw [Bool.eq_false_iff, ne_eq, isHalf_iff]
  intro hc
  have hlast : (0xe01f0, 0x10ffff) ∈ shapelessRanges := by decide +kernel
  have hvalid : c.toNat < 0xd800 ∨ 0xdfff < c.toNat ∧ c.toNat < 0x110000 := c.valid
  have hwithin : within shapelessRanges c = true :=
    List.any_eq_true.2 ⟨_, hlast, by simp only [Bool.and_eq_true, decide_eq_true_eq]; omega⟩
  rw [isPrintable, hwithin] at h
  cases h

theorem encodable_quoted (s : List Char) : Encodable (quoted s) := by
  have hquote : isHalf (quoteFor s) = false := by
    unfold quoteFor
    split <;> decide
  have hcode (n : Nat) : Encodable (quotedCode (quoteFor s) n) := by
    unfold quotedCode
    dsimp only
    split_ifs with hhalf hown hfeed hreturn htab hshown
    · exact encodable_escapeNumber n
    · refine encodable_cons.2 ⟨by decide, encodable_cons.2 ⟨?_, encodable_nil⟩⟩
      rcases hown with h | h <;> rw [h]
      · decide
      · exact hquote
    · decide
    · decide
    · decide
    · refine encodable_cons.2 ⟨?_, encodable_nil⟩
      rcases hshown with h | h
      · rw [h]
        decide
      · exact isHalf_of_isPrintable h
    · exact encodable_escapeNumber n
  refine encodable_cons.2 ⟨hquote, Encodable.append (fun c hc => ?_) ?_⟩
  · obtain ⟨n, -, hc⟩ := List.mem_flatMap.1 hc
    exact hcode n c hc
  · exact encodable_cons.2 ⟨hquote, encodable_nil⟩

end Text

namespace Json
open Text

theorem encodable_chars (x : Binary64) : Encodable x.chars := by
  cases x with
  | nan => decide
  | infinity negative => cases negative <;> decide
  | finite negative m e => exact encodable_of_figures (Reader.figures_real (.finite negative m e))

theorem encodable_separated {cs : List Char} (h : Encodable cs) : Encodable (',' :: ' ' :: cs) :=
  encodable_cons.2 ⟨by decide, encodable_cons.2 ⟨by decide, h⟩⟩

theorem encodable_named {cs : List Char} (h : Encodable cs) : Encodable (':' :: ' ' :: cs) :=
  encodable_cons.2 ⟨by decide, encodable_cons.2 ⟨by decide, h⟩⟩

mutual

/-- A value in a message has no half in it: where there are any, they are escaped. -/
theorem encodable_quotedChars : ∀ v : Json, Encodable v.quotedChars
  | .null => by rw [quotedChars]; decide
  | .bool b => by cases b <;> rw [quotedChars] <;> decide
  | .int n => by rw [quotedChars]; exact encodable_of_figures (Reader.figures_int n)
  | .real x => by rw [quotedChars]; exact encodable_chars x
  | .text s => by rw [quotedChars]; exact encodable_quoted s.toList
  | .list items => by
    rw [quotedChars]
    exact encodable_cons.2 ⟨by decide, (encodable_quotedItems items).append (by decide)⟩
  | .object entries => by
    rw [quotedChars]
    exact encodable_cons.2 ⟨by decide, (encodable_quotedEntries entries).append (by decide)⟩

theorem encodable_quotedItems : ∀ vs : List Json, Encodable (quotedItems vs)
  | [] => encodable_nil
  | [v] => by rw [quotedItems]; exact encodable_quotedChars v
  | v :: x :: r => by
    rw [quotedItems]
    · exact (encodable_quotedChars v).append (encodable_separated (encodable_quotedItems (x :: r)))
    · exact nofun

theorem encodable_quotedEntries : ∀ es : List (String × Json), Encodable (quotedEntries es)
  | [] => encodable_nil
  | [(k, v)] => by
    rw [quotedEntries]
    exact (encodable_quoted k.toList).append (encodable_named (encodable_quotedChars v))
  | (k, v) :: x :: r => by
    rw [quotedEntries]
    · have hentry := (encodable_quoted k.toList).append (encodable_named (encodable_quotedChars v))
      exact hentry.append (encodable_separated (encodable_quotedEntries (x :: r)))
    · exact nofun

end

end Json

theorem Whole.quoted (v : Json) : Whole given v.quoted :=
  of_encodable (by rw [Json.quoted, String.toList_ofList]; exact v.encodable_quotedChars)

/-! Messages. -/

theorem Json.IsTextOf.display {P : String → Prop} {v : Json} (h : v.IsTextOf P) : P v.display := by
  obtain ⟨s, rfl, hs⟩ := h
  exact hs

end UmlPress
