import Mathlib.Data.List.TakeWhile
import UmlPress.Console.Listing
import UmlPress.Text.Half

/-!
# How a listing is cut

Whatever is taken for a word, a number, a comment or a quoted text in a listing is what the listing
starts with, and the rest of it is what follows. So no stretch has a half in it if the listing has
none.
-/
namespace UmlPress.Console.Listing
open Text
variable {s t rest : List Char} {places : List Place}

theorem append_of_isPrefixOf {mark : List Char} (h : mark.isPrefixOf s = true) :
    mark ++ s.drop mark.length = s :=
  (List.prefix_iff_eq_append.1 (List.isPrefixOf_iff_prefix.1 h))

theorem append_of_after? {mark : String} (h : after? mark s = some rest) :
    mark.toList ++ rest = s := by
  unfold after? at h
  split at h
  case isTrue hprefix =>
    cases h
    have hlength : mark.toList.length = mark.length := String.length_toList
    rw [← hlength]
    exact append_of_isPrefixOf hprefix
  case isFalse => cases h

theorem append_of_through? {mark : List Char} (h : through? mark s = some (t, rest)) :
    t ++ rest = s := by
  induction s generalizing t with
  | nil =>
    unfold through? at h
    split at h <;> cases h
    rfl
  | cons c r ih =>
    rw [through?] at h
    split at h
    case isTrue hprefix =>
      cases h
      exact append_of_isPrefixOf hprefix
    case isFalse =>
      obtain ⟨⟨u, rest'⟩, hu, heq⟩ := Option.map_eq_some_iff.1 h
      cases heq
      exact congrArg (c :: ·) (ih hu)

theorem append_of_enclosed? {opening closing : String}
    (h : enclosed? opening closing s = some (t, rest)) : t ++ rest = s := by
  obtain ⟨r, hr, h⟩ := Option.bind_eq_some_iff.1 h
  obtain ⟨⟨inside, rest'⟩, hinside, heq⟩ := Option.map_eq_some_iff.1 h
  cases heq
  rw [List.append_assoc, append_of_through? hinside, append_of_after? hr]

theorem append_of_orElse {x y : Option (List Char × List Char)}
    (hx : x = some (t, rest) → t ++ rest = s) (hy : y = some (t, rest) → t ++ rest = s)
    (h : (x <|> y) = some (t, rest)) : t ++ rest = s := by
  cases x with
  | none => exact hy h
  | some p => exact hx h

theorem append_of_word? (h : word? s = some (t, rest)) : t ++ rest = s := by
  cases s with
  | nil => cases h
  | cons c r =>
    rw [word?] at h
    split at h
    case isTrue =>
      cases h
      exact congrArg (c :: ·) List.takeWhile_append_dropWhile
    case isFalse => cases h

theorem append_of_wordAlone? {before : Option Char} {name : String}
    (h : wordAlone? before s = some (name, t, rest)) : t ++ rest = s := by
  unfold wordAlone? at h
  split at h
  case isTrue => cases h
  case isFalse =>
    obtain ⟨⟨w, rest'⟩, hw, heq⟩ := Option.map_eq_some_iff.1 h
    cases heq
    exact append_of_word? hw

theorem append_of_quotes? {c : Char} {long : Bool} (h : quotes? s = some (c, long, rest)) :
    s.take (if long then 3 else 1) ++ rest = s := by
  unfold quotes? at h
  split at h
  case h_2 => cases h
  case h_1 =>
    split at h
    case isFalse => cases h
    case isTrue =>
      split at h
      case h_1 => split at h <;> cases h <;> rfl
      case h_2 =>
        cases h
        rfl

theorem append_of_quoted? {t : Stretch} (h : quoted? places s = some t) : t.text ++ t.rest = s := by
  unfold quoted? at h
  dsimp only at h
  split at h
  case h_1 text rest hraw =>
    cases h
    exact append_of_orElse append_of_enclosed? (append_of_orElse append_of_enclosed?
      (append_of_orElse append_of_enclosed? append_of_enclosed?)) hraw
  case h_2 =>
    obtain ⟨⟨c, long, rest⟩, hquotes, heq⟩ := Option.map_eq_some_iff.1 h
    cases heq
    exact append_of_quotes? hquotes

theorem append_of_digits (h : digits s = (t, rest)) : t ++ rest = s := by
  cases h
  exact List.takeWhile_append_dropWhile

theorem append_of_exponent (h : exponent s = (t, rest)) : t ++ rest = s := by
  revert h
  fun_cases exponent s with
  | case1 => rintro ⟨⟩; rfl
  | case2 e r he sign behind hsign ds rest' _ hdigits =>
    rintro ⟨⟩
    have hsigned : sign ++ behind = r := by split at hsign <;> cases hsign <;> rfl
    rw [← hsigned, ← append_of_digits hdigits]
    simp
  | case3 => rintro ⟨⟩; rfl
  | case4 => rintro ⟨⟩; rfl

theorem append_of_decimal? (h : number?.decimal? s = some (t, rest)) : t ++ rest = s := by
  revert h
  fun_cases number?.decimal? s with
  | case1 => exact nofun
  | case2 whole r _ hwhole part r' hpart power rest' hpower =>
    rintro ⟨⟩
    rw [← append_of_digits hwhole, ← append_of_digits hpart, ← append_of_exponent hpower]
    simp
  | case3 whole r _ _ hwhole power rest' hpower =>
    rintro ⟨⟩
    rw [← append_of_digits hwhole, ← append_of_exponent hpower, List.append_assoc]

theorem append_of_number? (h : number? s = some (t, rest)) : t ++ rest = s := by
  unfold number? at h
  split at h
  case h_1 x r =>
    split at h
    case isTrue =>
      cases h
      simp
    case isFalse => exact append_of_decimal? h
  case h_2 => exact append_of_decimal? h

theorem append_of_comment? (h : comment? s = some (t, rest)) : t ++ rest = s := by
  unfold comment? at h
  split at h
  case h_1 =>
    cases h
    exact List.takeWhile_append_dropWhile
  case h_2 => exact append_of_orElse append_of_enclosed? append_of_enclosed? h

theorem append_codeStretch (places : List Place) (before : Option Char) (c : Char)
    (r : List Char) : (codeStretch places before c r).text ++ (codeStretch places before c r).rest =
      c :: r := by
  unfold codeStretch
  dsimp only
  split
  case h_1 t ht => exact append_of_quoted? ht
  case h_2 =>
    split
    case h_1 text rest hcomment => exact append_of_comment? hcomment
    case h_2 =>
      split
      case h_1 w rest hw => exact append_of_wordAlone? hw
      case h_2 w rest hw => exact append_of_wordAlone? hw
      case h_3 name w rest _ _ hw =>
        split
        · rw [List.append_assoc, List.takeWhile_append_dropWhile]
          exact append_of_wordAlone? hw
        · exact append_of_wordAlone? hw
      case h_4 =>
        split
        case h_1 text rest hnumber =>
          exact append_of_orElse append_of_word? append_of_number? hnumber
        case h_2 => rfl

theorem append_of_braced {r : List Char} {found : Option (List Char × List Char)}
    (h : (match r with
      | '{' :: r' => match r'.dropWhile isHex with
        | '}' :: rest => some ('\\' :: 'u' :: '{' :: r'.takeWhile isHex ++ ['}'], rest)
        | _ => none
      | _ => none) = found) :
    (found.getD (['\\', 'u'], r)).1 ++ (found.getD (['\\', 'u'], r)).2 = '\\' :: 'u' :: r := by
  split at h
  case h_1 r' =>
    have hsplit : r'.takeWhile isHex ++ r'.dropWhile isHex = r' := List.takeWhile_append_dropWhile
    split at h
    case h_1 rest heq =>
      rw [heq] at hsplit
      subst h
      have hbody : r'.takeWhile isHex ++ ['}'] ++ rest = r' := by simpa using hsplit
      exact congrArg ('\\' :: 'u' :: '{' :: ·) hbody
    case h_2 =>
      subst h
      rfl
  case h_2 =>
    subst h
    rfl

theorem append_of_escape? (h : escape? s = some (t, rest)) : t ++ rest = s := by
  revert h
  fun_cases escape? s with
  | case1 => rintro ⟨⟩; rfl
  | case2 => rintro ⟨⟩; rfl
  | case3 r =>
    rintro ⟨⟩
    exact congrArg ('\\' :: 'u' :: ·) (List.take_append_drop 4 r)
  | case4 r _ found =>
    intro h
    have hbraced : (found.getD (['\\', 'u'], r)).1 ++ (found.getD (['\\', 'u'], r)).2 =
        '\\' :: 'u' :: r := append_of_braced rfl
    rwa [Option.some.inj h] at hbraced
  | case5 => rintro ⟨⟩; rfl
  | case6 => exact nofun
  | case7 => exact nofun

/-- An inserted expression is part of what the text starts with. -/
theorem append_of_inserted? {expression : Option (List Char)}
    (h : inserted? s = some (t, expression, rest)) :
    ∃ inside, t ++ inside ++ rest = s ∧ expression.getD [] ⊆ inside := by
  revert h
  fun_cases inserted? s with
  | case1 r =>
    intro h
    obtain ⟨⟨inside, rest'⟩, hinside, heq⟩ := Option.map_eq_some_iff.1 h
    cases heq
    exact ⟨inside, by rw [← append_of_through? hinside]; simp, List.dropLast_subset inside⟩
  | case2 => exact nofun
  | case3 r _ w rest' _ hw =>
    rintro ⟨⟩
    exact ⟨[], by rw [← append_of_word? hw]; simp, List.Subset.refl _⟩
  | case4 => exact nofun
  | case5 => exact nofun

/-- No stretch has a half in it if the listing has none. -/
theorem encodable_of_mem_stretches {n : Nat} {before : Option Char} (h : Encodable s) :
    ∀ u ∈ stretches n places before s, Encodable u := by
  induction n generalizing places before s with
  | zero =>
    rw [stretches]
    exact List.forall_mem_nil _
  | succ n ih =>
    rcases s with _ | ⟨c, r⟩
    · rw [stretches]
      · exact List.forall_mem_nil _
      · exact nofun
    · -- one stretch and those of the rest
      have hgo {text rest : List Char} {places' : List Place} {before' : Option Char}
          (happend : text ++ rest = c :: r) :
          ∀ u ∈ text :: stretches n places' before' rest, Encodable u := by
        rw [← happend, encodable_append] at h
        exact List.forall_mem_cons.2 ⟨h.1, ih h.2⟩
      unfold stretches
      dsimp only
      split
      case h_1 outer =>
        split
        case h_1 w rest hw => exact hgo (append_of_word? hw)
        case h_2 => exact hgo rfl
      case h_2 outer =>
        split
        case h_1 t ht => exact hgo (append_of_quoted? ht)
        case h_2 =>
          split
          case h_1 w rest hw => exact hgo (append_of_word? hw)
          case h_2 => split <;> exact hgo rfl
      case h_3 quote long outer =>
        generalize List.replicate _ quote = mark
        split
        case isTrue hmark => exact hgo (append_of_isPrefixOf hmark)
        case isFalse =>
          split
          case isTrue => exact hgo List.takeWhile_append_dropWhile
          case isFalse =>
            split
            case h_1 text rest hescape => exact hgo (append_of_escape? hescape)
            case h_2 text rest _ hinserted =>
              obtain ⟨inside, happend, -⟩ := append_of_inserted? hinserted
              rw [← happend, encodable_append, encodable_append] at h
              exact List.forall_mem_cons.2 ⟨h.1.1, ih h.2⟩
            case h_3 text expression rest _ hinserted =>
              obtain ⟨inside, happend, hinside⟩ := append_of_inserted? hinserted
              rw [← happend, encodable_append, encodable_append] at h
              refine List.forall_mem_cons.2 ⟨h.1.1, List.forall_mem_append.2
                ⟨ih (h.1.2.of_subset hinside), List.forall_mem_cons.2 ⟨by decide, ih h.2⟩⟩⟩
            case h_4 =>
              split
              case isTrue => exact hgo List.takeWhile_append_dropWhile
              case isFalse => exact hgo rfl
      case h_4 => exact hgo (append_codeStretch _ _ _ _)

theorem encodable_of_mem_cut (h : Encodable s) : ∀ u ∈ cut s, Encodable u :=
  encodable_of_mem_stretches h

end UmlPress.Console.Listing
