import UmlPress.Json.Reader
import UmlPress.Json.Writer

/-!
# Texts are read back

Every character of a text is written in a way that the reader takes for that character, in
one step and whatever follows.
-/
namespace UmlPress.Json
variable {c : Char} {rest : List Char}

/-! Characters. -/

theorem hexValue_hexDigit : ∀ n < 16, Reader.hexValue? (Text.hexDigit n) = some n := by decide

theorem unit_hex {n : Nat} (hn : n < 65536) (hrest : rest ≠ []) :
    Reader.unit? (Text.hex 4 n ++ rest) = some (n, rest) := by
  obtain ⟨e, r, rfl⟩ := List.exists_cons_of_ne_nil hrest
  have hdigit : ∀ i, Reader.hexValue? (Text.hexDigit (n / Nat.pow 16 i % 16)) =
      some (n / 16 ^ i % 16) := fun i => hexValue_hexDigit _ (Nat.mod_lt _ (by omega))
  change Reader.unit? (Text.hexDigit (n / Nat.pow 16 3 % 16) ::
    Text.hexDigit (n / Nat.pow 16 2 % 16) :: Text.hexDigit (n / Nat.pow 16 1 % 16) ::
    Text.hexDigit (n / Nat.pow 16 0 % 16) :: e :: r) = _
  rw [Reader.unit?, hdigit, hdigit, hdigit, hdigit]
  have hvalue : (((n / 16 ^ 3 % 16) * 16 + n / 16 ^ 2 % 16) * 16 + n / 16 ^ 1 % 16) * 16 +
      n / 16 ^ 0 % 16 = n := by omega
  exact congrArg (fun m => some (m, e :: r)) hvalue

theorem escaped_of_shortEscape {e : Char} (h : shortEscape? c = some e) :
    Reader.escaped? e = some c ∧ e ≠ 'u' := by
  unfold shortEscape? at h
  split at h
  all_goals first
    | (cases h; decide)
    | cases h

theorem ne_of_shortEscape (h : shortEscape? c = none) : c ≠ '\x22' ∧ c ≠ '\\' ∧ c ≠ '\r' := by
  refine ⟨?_, ?_, ?_⟩
  all_goals
    rintro rfl
    cases h

namespace Reader

def prepend (c : Char) (read : Except Stop (List Char × List Char)) :
    Except Stop (List Char × List Char) := do
  let (t, s) ← read
  return (c :: t, s)

theorem textTail_writtenChar (opened fuel : Nat) (c : Char) (hrest : rest ≠ []) :
    textTail opened (fuel + 1) (writtenChar c ++ rest) =
      prepend c (textTail opened fuel rest) := by
  unfold writtenChar
  split
  · rename_i e he
    obtain ⟨hescaped, hu⟩ := escaped_of_shortEscape he
    change textTail opened (fuel + 1) ('\\' :: e :: rest) = _
    rw [textTail.eq_6 _ _ _ _ hu, hescaped]
    rfl
  · rename_i hnone
    obtain ⟨hquote, hback, -⟩ := ne_of_shortEscape hnone
    split
    · rename_i hcontrol
      change textTail opened (fuel + 1) ('\\' :: 'u' :: (Text.hex 4 c.toNat ++ rest)) = _
      have hunit : escapedUnit (Text.hex 4 c.toNat ++ rest) = .ok (c.toNat, rest) := by
        rw [escapedUnit, unit_hex (by omega) hrest]
        dsimp only
        rw [if_neg (by omega)]
      rw [textTail.eq_5, hunit]
      change (do
        let (t, s) ← textTail opened fuel rest
        return (Text.held c.toNat ++ t, s)) = prepend c (textTail opened fuel rest)
      rw [Text.held_toNat (by omega)]
      rfl
    · rename_i hcontrol
      change textTail opened (fuel + 1) (c :: rest) = _
      rw [textTail.eq_7 _ _ _ _ hquote (fun h _ => hback h) (fun _ h _ => hback h)
        (fun _ _ h _ => hback h), if_neg hcontrol]
      rfl

theorem textTail_written (opened : Nat) (cs rest : List Char) {fuel : Nat}
    (hfuel : cs.length < fuel) :
    textTail opened fuel (cs.flatMap writtenChar ++ '\x22' :: rest) = .ok (cs, rest) := by
  induction cs generalizing fuel with
  | nil =>
    obtain ⟨fuel, rfl⟩ := Nat.exists_eq_succ_of_ne_zero (Nat.ne_of_gt hfuel)
    exact textTail.eq_3 opened fuel rest
  | cons c r ih =>
    obtain ⟨fuel, rfl⟩ := Nat.exists_eq_succ_of_ne_zero (Nat.ne_of_gt (Nat.zero_lt_of_lt hfuel))
    rw [List.flatMap_cons, List.append_assoc, textTail_writtenChar _ _ _ (by simp),
      ih (Nat.lt_of_succ_lt_succ hfuel)]
    rfl

theorem length_le_flatMap (cs : List Char) : cs.length ≤ (cs.flatMap writtenChar).length := by
  induction cs with
  | nil => exact Nat.le_refl 0
  | cons c r ih =>
    have hpos : 0 < (writtenChar c).length := by
      unfold writtenChar
      split
      · exact Nat.succ_pos _
      · split
        · exact Nat.succ_pos _
        · exact Nat.succ_pos _
    rw [List.flatMap_cons, List.length_append, List.length_cons]
    omega

/-- A written text is read back behind its opening quote. -/
theorem quotedText_written (s : String) (rest : List Char) :
    quotedText (s.toList.flatMap writtenChar ++ '\x22' :: rest) = .ok (s, rest) := by
  have hlen := length_le_flatMap s.toList
  rw [quotedText, textTail_written]
  · rw [show (Except.ok (s.toList, rest) >>= fun x => pure (String.ofList x.1, x.2)) =
      (.ok (String.ofList s.toList, rest) : Except Stop _) from rfl, String.ofList_toList]
  · rw [List.length_append]
    omega

end Reader
end UmlPress.Json
