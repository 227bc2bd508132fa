import UmlPress.Json.Writer
import UmlPress.Proofs.ReadNumber

/-!
# The parts of a layout

The parts that a file is written in are, one behind the other, the layout of the value. One of
them is missing for every number of too many digits, and a half stands in one of them if there
is a half in a text or a key of the value.
-/
namespace UmlPress

namespace Text
variable {s : List Char}

theorem encodable_of_figures (h : Json.Reader.Figures s) : Encodable s := by
  intro c hc
  have hfigure := h c hc
  simp only [Json.Reader.isFigure, Bool.or_eq_true, Bool.and_eq_true, decide_eq_true_eq] at hfigure
  exact isHalf_of_lt (by omega)

theorem encodable_hex (width n : Nat) : Encodable (hex width n) := by
  have hdigit : ∀ n < 16, isHalf (hexDigit n) = false := by decide
  intro c hc
  obtain ⟨i, -, rfl⟩ := List.mem_map.1 hc
  exact hdigit _ (Nat.mod_lt _ (by omega))

end Text

namespace Json
open Text
variable {v : Json} {ps qs : List Part} {cs ds before : List Char}

inductive Lays : List Part → List Char → Prop
  | nil : Lays [] []
  | whole (t : List Char) {ps : List Part} {cs : List Char} : Lays ps cs →
    Lays (some t :: ps) (t ++ cs)
  | missing (t : List Char) {ps : List Part} {cs : List Char} : Lays ps cs →
    Lays (none :: ps) (t ++ cs)

namespace Lays

theorem of_eq (h : Lays ps cs) (heq : ds = cs) : Lays ps ds := heq ▸ h

theorem one (t : List Char) : Lays [some t] t := (whole t nil).of_eq (List.append_nil t).symm

theorem append (h : Lays ps cs) (h' : Lays qs ds) : Lays (ps ++ qs) (cs ++ ds) := by
  induction h with
  | nil => exact h'
  | whole t _ ih => exact (whole t ih).of_eq (List.append_assoc ..)
  | missing t _ ih => exact (missing t ih).of_eq (List.append_assoc ..)

end Lays

theorem parts_of_scalar (h : v.isContainer = false) (depth : Nat) :
    v.parts depth = [if v.isShort then some (v.spread depth) else none] := by
  cases v with
  | list _ => cases h
  | object _ => cases h
  | null | bool _ | int _ | real _ | text _ => rfl

theorem lays_behind {depth : Nat} (h : Lays (v.parts depth) (v.spread depth))
    (before : List Char) : Lays (behind before v (v.parts depth)) (before ++ v.spread depth) := by
  unfold behind
  split
  case isTrue => exact .whole before h
  case isFalse hscalar =>
    rw [parts_of_scalar (by simpa using hscalar)]
    split
    · exact .one _
    · exact (Lays.missing _ .nil).of_eq (List.append_nil _).symm

mutual

/-- The parts of a value are its layout. -/
theorem lays_parts : ∀ (v : Json) (depth : Nat), Lays (v.parts depth) (v.spread depth)
  | .null, _ => .one _
  | .bool _, _ => .one _
  | .int n, depth => by
    rw [parts_of_scalar rfl]
    split
    · exact .one _
    · exact (Lays.missing _ .nil).of_eq (List.append_nil _).symm
  | .real _, _ => .one _
  | .text _, _ => .one _
  | .list [], _ => .one _
  | .list (x :: r), depth => by
    have hitems := lays_itemParts (x :: r) (depth + 1) ['['] (List.cons_ne_nil x r)
    rw [parts, spread]
    · exact (hitems.append (.whole _ (.one _))).of_eq (by simp)
    all_goals exact nofun
  | .object [], _ => .one _
  | .object (e :: r), depth => by
    have hentries := lays_entryParts (e :: r) (depth + 1) [] (List.cons_ne_nil e r)
    rw [parts, spread]
    · exact (((Lays.one ['\x7b']).append hentries).append (.whole _ (.one _))).of_eq (by simp)
    all_goals exact nofun

theorem lays_itemParts : ∀ (vs : List Json) (depth : Nat) (before : List Char), vs ≠ [] →
    Lays (itemParts depth before vs) (before ++ spreadItems depth vs)
  | [], _, _, hne => absurd rfl hne
  | [v], depth, before, _ => by
    rw [itemParts, itemParts, spreadItems, List.append_nil]
    exact (lays_behind (lays_parts v depth) _).of_eq (by simp)
  | v :: x :: r, depth, before, _ => by
    have hitems := lays_itemParts (x :: r) depth [','] (List.cons_ne_nil x r)
    rw [itemParts, spreadItems]
    · exact ((lays_behind (lays_parts v depth) _).append hitems).of_eq (by simp)
    · exact nofun

theorem lays_entryParts : ∀ (es : List (String × Json)) (depth : Nat) (before : List Char),
    es ≠ [] → Lays (entryParts depth before es) (before ++ spreadEntries depth es)
  | [], _, _, hne => absurd rfl hne
  | [(k, v)], depth, before, _ => by
    rw [entryParts, entryParts, spreadEntries, List.append_nil]
    exact (Lays.whole _ (.whole _ (.whole _ (lays_parts v depth)))).of_eq (by simp)
  | (k, v) :: e :: r, depth, before, _ => by
    have hentries := lays_entryParts (e :: r) depth [','] (List.cons_ne_nil e r)
    rw [entryParts, spreadEntries]
    · exact (Lays.whole _ (.whole _ (.whole _ ((lays_parts v depth).append hentries)))).of_eq
        (by simp)
    · exact nofun

end

/-! Missing parts. -/

theorem none_mem_behind {before : List Char} {ps : List Part} :
    none ∈ behind before v ps ↔ none ∈ ps := by
  unfold behind
  split
  · simp
  · simp

theorem none_mem_scalar (h : v.isContainer = false) (depth : Nat) :
    none ∈ v.parts depth ↔ v.isShort = false := by
  rw [parts_of_scalar h, List.mem_singleton]
  cases v.isShort <;> simp

mutual

/-- A part is missing for a number of too many digits, and for nothing else. -/
theorem none_mem_parts : ∀ (v : Json) (depth : Nat),
    none ∈ v.parts depth ↔ v.all isShort = false
  | .null, _ => none_mem_scalar rfl _
  | .bool _, _ => none_mem_scalar rfl _
  | .int _, _ => none_mem_scalar rfl _
  | .real _, _ => none_mem_scalar rfl _
  | .text _, _ => none_mem_scalar rfl _
  | .list [], _ => by simp [parts, all, allItems, isShort]
  | .list (x :: r), depth => by
    rw [parts, List.mem_append, none_mem_itemParts (x :: r) (depth + 1) ['['], all]
    · simp [isShort]
    · exact nofun
  | .object [], _ => by simp [parts, all, allEntries, isShort]
  | .object (e :: r), depth => by
    rw [parts, List.mem_append, List.mem_cons, none_mem_entryParts (e :: r) (depth + 1) [], all]
    · simp [isShort]
    · exact nofun

theorem none_mem_itemParts : ∀ (vs : List Json) (depth : Nat) (before : List Char),
    none ∈ itemParts depth before vs ↔ allItems isShort vs = false
  | [], _, _ => by simp [itemParts, allItems]
  | v :: r, depth, before => by
    rw [itemParts, List.mem_append, none_mem_behind, none_mem_parts v depth,
      none_mem_itemParts r depth [','], allItems, Bool.and_eq_false_iff]

theorem none_mem_entryParts : ∀ (es : List (String × Json)) (depth : Nat) (before : List Char),
    none ∈ entryParts depth before es ↔ allEntries isShort es = false
  | [], _, _ => by simp [entryParts, allEntries]
  | (k, v) :: r, depth, before => by
    rw [entryParts, List.mem_cons, List.mem_cons, List.mem_cons, List.mem_append,
      none_mem_parts v depth, none_mem_entryParts r depth [','], allEntries,
      Bool.and_eq_false_iff]
    simp

end

/-! Halves. -/

def isEncodable : Json → Bool
  | .text s => decide (Encodable s.toList)
  | .object entries => entries.all fun e => decide (Encodable e.1.toList)
  | _ => true

theorem encodable_writtenChar {c : Char} : Encodable (writtenChar c) ↔ isHalf c = false := by
  unfold writtenChar
  split
  · rename_i e he
    have hc : isHalf c = false ∧ isHalf e = false := by
      unfold shortEscape? at he
      split at he
      all_goals first
        | (cases he; decide)
        | cases he
    exact iff_of_true (List.forall_mem_cons.2 ⟨by decide, List.forall_mem_singleton.2 hc.2⟩) hc.1
  · split
    · rename_i hcontrol
      refine iff_of_true ?_ (isHalf_of_lt (by omega))
      exact encodable_cons.2 ⟨by decide, encodable_cons.2 ⟨by decide, encodable_hex 4 _⟩⟩
    · exact List.forall_mem_singleton

theorem encodable_writtenText {s : String} : Encodable (writtenText s) ↔ Encodable s.toList := by
  have hquote : isHalf '\x22' = false := by decide
  have hbody : Encodable (s.toList.flatMap writtenChar) ↔ Encodable s.toList := by
    unfold Text.Encodable
    rw [List.forall_mem_flatMap]
    exact forall₂_congr fun c _ => encodable_writtenChar
  simp [writtenText, hquote, hbody, encodable_nil]

theorem encodable_newLine (depth : Nat) : Encodable (newLine depth) := by
  refine encodable_cons.2 ⟨by decide, fun c hc => ?_⟩
  rw [List.eq_of_mem_replicate hc]
  decide

mutual

/-- There are no halves in a layout but those of texts and keys. -/
theorem encodable_spread : ∀ (v : Json) (depth : Nat),
    Encodable (v.spread depth) ↔ v.all isEncodable = true
  | .null, depth => by
    refine iff_of_true ?_ rfl
    rw [spread]
    decide
  | .bool b, depth => by
    refine iff_of_true ?_ rfl
    rw [spread]
    cases b <;> decide
  | .int n, _ => iff_of_true (encodable_of_figures (Reader.figures_int n)) rfl
  | .real x, _ => iff_of_true (encodable_of_figures (Reader.figures_real x)) rfl
  | .text s, _ => by
    rw [spread, encodable_writtenText]
    exact decide_eq_true_iff.symm
  | .list [], _ => iff_of_true (by rw [spread]; decide) rfl
  | .list (x :: r), depth => by
    have hopen : isHalf '[' = false := by decide
    have hclose : isHalf ']' = false := by decide
    rw [spread, all]
    · simp [isEncodable, hopen, hclose, encodable_nil, encodable_newLine,
        encodable_spreadItems (x :: r) (depth + 1)]
    · exact nofun
  | .object [], _ => iff_of_true (by rw [spread]; decide) rfl
  | .object (e :: r), depth => by
    have hopen : isHalf '\x7b' = false := by decide
    have hclose : isHalf '\x7d' = false := by decide
    rw [spread, all]
    · simp [isEncodable, hopen, hclose, encodable_nil, encodable_newLine,
        encodable_spreadEntries (e :: r) (depth + 1)]
    · exact nofun

theorem encodable_spreadItems : ∀ (vs : List Json) (depth : Nat),
    Encodable (spreadItems depth vs) ↔ allItems isEncodable vs = true
  | [], _ => iff_of_true encodable_nil rfl
  | [v], depth => by
    simp [spreadItems, allItems, encodable_newLine, encodable_spread v depth]
  | v :: x :: r, depth => by
    have hcomma : isHalf ',' = false := by decide
    rw [spreadItems, allItems]
    · simp [hcomma, encodable_newLine, encodable_spread v depth,
        encodable_spreadItems (x :: r) depth]
    · exact nofun

theorem encodable_spreadEntries : ∀ (es : List (String × Json)) (depth : Nat),
    Encodable (spreadEntries depth es) ↔
      (es.all fun e => decide (Encodable e.1.toList)) = true ∧ allEntries isEncodable es = true
  | [], _ => iff_of_true encodable_nil ⟨rfl, rfl⟩
  | [(k, v)], depth => by
    have hcolon : isHalf ':' = false := by decide
    have hblank : isHalf ' ' = false := by decide
    simp [spreadEntries, allEntries, hcolon, hblank, encodable_newLine, encodable_writtenText,
      encodable_spread v depth]
  | (k, v) :: e :: r, depth => by
    have hcolon : isHalf ':' = false := by decide
    have hblank : isHalf ' ' = false := by decide
    have hcomma : isHalf ',' = false := by decide
    rw [spreadEntries, allEntries, List.all_cons]
    · simp only [encodable_append, encodable_cons, encodable_newLine, encodable_writtenText,
        encodable_spread v depth, encodable_spreadEntries (e :: r) depth, hcolon, hblank, hcomma,
        Bool.and_eq_true, decide_eq_true_eq, true_and, and_assoc, and_left_comm]
    · exact nofun

end

end Json
end UmlPress
