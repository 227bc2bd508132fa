import UmlPress.Proofs.Proper

/-!
# Numbers of too many digits

A reader goes on from what the reader before it has left, so that what is left is always
the end of the whole text. If it complains of too many digits, they stand in the text in
one row.
-/
namespace UmlPress.Json
namespace Reader
variable {α β : Type} {cs cs' rest : List Char} {r : Except Stop (α × List Char)} {v : Json}

def HasLongRun (cs : List Char) : Prop :=
  ∃ digits, digits <:+: cs ∧ digitLimit < digits.length ∧ ∀ c ∈ digits, isDigit c = true

theorem HasLongRun.mono (h : HasLongRun cs) (hs : cs <:+ cs') : HasLongRun cs' :=
  let ⟨digits, hin, hlong⟩ := h
  ⟨digits, hin.trans hs.isInfix, hlong⟩

structure Proceeds (cs : List Char) (r : Except Stop (α × List Char)) : Prop where
  rest : ∀ {a rest}, r = .ok (a, rest) → rest <:+ cs
  long : ∀ {n left}, r = .error ⟨.longInteger n, left⟩ → HasLongRun cs

theorem Proceeds.ok {a : α} (h : rest <:+ cs) : Proceeds cs (.ok (a, rest)) :=
  ⟨fun h' => by cases h'; exact h, nofun⟩

theorem Proceeds.error {complaint : Complaint} {left : Nat} (h : ∀ n, complaint ≠ .longInteger n) :
    Proceeds cs (.error ⟨complaint, left⟩ : Except Stop (α × List Char)) :=
  ⟨nofun, fun h' => by cases h'; exact absurd rfl (h _)⟩

theorem Proceeds.mono (h : Proceeds cs r) (hs : cs <:+ cs') : Proceeds cs' r :=
  ⟨fun h' => (h.rest h').trans hs, fun h' => (h.long h').mono hs⟩

theorem Proceeds.bind {f : α × List Char → Except Stop (β × List Char)} (h : Proceeds cs r)
    (hf : ∀ a rest, rest <:+ cs → Proceeds rest (f (a, rest))) : Proceeds cs (r >>= f) := by
  cases r with
  | error s =>
    refine ⟨nofun, fun h' => ?_⟩
    cases h'
    exact h.long rfl
  | ok p =>
    have hs := h.rest rfl
    exact (hf p.1 p.2 hs).mono hs

theorem skip_suffix (cs : List Char) : skip cs <:+ cs := List.dropWhile_suffix _

theorem unit_suffix {u : Nat} (h : unit? cs = some (u, rest)) : rest <:+ cs := by
  unfold unit? at h
  split at h
  · simp only [Option.bind_eq_bind, Option.bind_eq_some_iff, Option.pure_def, Option.some.injEq,
      Prod.mk.injEq] at h
    obtain ⟨-, -, -, -, -, -, -, -, -, rfl⟩ := h
    exact ⟨[_, _, _, _], rfl⟩
  · cases h

theorem lowUnit_suffix {found : Option (Nat × List Char)} (h : lowUnit cs = .ok found) :
    ∀ u rest, found = some (u, rest) → rest <:+ cs := by
  unfold lowUnit at h
  split at h
  · split at h
    · cases h
      exact nofun
    · split at h
      · cases h
      · rename_i u t hu
        rintro u' rest rfl
        split at h
        · cases h
          exact (unit_suffix hu).trans ⟨['\\', 'u'], rfl⟩
        · cases h
  · cases h
    exact nofun

theorem lowUnit_error {s : Stop} (h : lowUnit cs = .error s) : s.complaint = .unitEscape := by
  unfold lowUnit at h
  split at h
  · split at h
    · cases h
    · split at h
      · cases h
        rfl
      · split at h <;> cases h
  · cases h

theorem proceeds_escapedUnit (cs : List Char) : Proceeds cs (escapedUnit cs) := by
  unfold escapedUnit
  split
  · exact .error nofun
  · rename_i u s hu
    refine Proceeds.mono ?_ (unit_suffix hu)
    split
    · cases hlow : lowUnit s with
      | error e =>
        obtain ⟨complaint, left⟩ := e
        cases lowUnit_error hlow
        exact .error nofun
      | ok found =>
        rcases found with _ | ⟨u', t⟩
        · exact .ok (List.suffix_refl s)
        · exact .ok (lowUnit_suffix hlow u' t rfl)
    · exact .ok (List.suffix_refl s)

theorem proceeds_textTail (opened fuel : Nat) (cs : List Char) :
    Proceeds cs (textTail opened fuel cs) := by
  induction fuel generalizing cs with
  | zero => exact .error (by simp)
  | succ fuel ih =>
    have hthen (before s : List Char) :
        Proceeds s (textTail opened fuel s >>= fun x => pure (before ++ x.1, x.2)) :=
      (ih s).bind fun t s' _ => .ok (List.suffix_refl s')
    unfold textTail
    split
    · exact .error (by simp)
    · exact .ok (List.suffix_cons _ _)
    · exact .error (by simp)
    · rename_i r
      refine Proceeds.mono ?_ (show r <:+ _ from ⟨['\\', 'u'], rfl⟩)
      exact (proceeds_escapedUnit r).bind fun n s _ => hthen (Text.held n) s
    · split
      · exact .error (by simp)
      · rename_i e r _ _ c _
        exact (hthen [c] r).mono ⟨['\\', e], rfl⟩
    · split
      · exact .error (by simp)
      · exact (hthen [_] _).mono (List.suffix_cons _ _)

theorem proceeds_quotedText (cs : List Char) : Proceeds cs (quotedText cs) :=
  (proceeds_textTail _ _ cs).bind fun _ s _ => .ok (List.suffix_refl s)

theorem fraction_suffix {ds : List Char} (h : fraction? cs = some (ds, rest)) : rest <:+ cs := by
  unfold fraction? at h
  split at h
  · dsimp only at h
    split at h
    · cases h
    · cases h
      exact (List.dropWhile_suffix _).trans (List.suffix_cons _ _)
  · cases h

theorem exponentDigits_suffix {negative : Bool} {n : Int}
    (h : exponentDigits? negative cs = some (n, rest)) : rest <:+ cs := by
  unfold exponentDigits? at h
  dsimp only at h
  split at h
  · cases h
  · cases h
    exact List.dropWhile_suffix _

theorem exponent_suffix {n : Int} (h : exponent? cs = some (n, rest)) : rest <:+ cs := by
  unfold exponent? at h
  split at h
  · split at h
    · refine List.IsSuffix.trans ?_ (List.suffix_cons _ _)
      split at h
      · exact (exponentDigits_suffix h).trans (List.suffix_cons _ _)
      · exact (exponentDigits_suffix h).trans (List.suffix_cons _ _)
      · exact exponentDigits_suffix h
    · cases h
  · cases h

theorem whole_eq {ds : List Char} (h : whole? cs = some (ds, rest)) : cs = ds ++ rest := by
  unfold whole? at h
  split at h
  · cases h
    rfl
  · split at h
    · cases h
      exact List.takeWhile_append_dropWhile.symm
    · cases h
  · cases h

/-- What follows the optional parts of a number is the end of what followed its digits. -/
theorem getD_suffix {γ : Type} {part : Option (γ × List Char)}
    (h : ∀ x rest, part = some (x, rest) → rest <:+ cs) : (part.map (·.2)).getD cs <:+ cs := by
  rcases part with _ | ⟨x, rest⟩
  · exact List.suffix_refl cs
  · exact h x rest rfl

theorem proceeds_number {negative : Bool} {ds : List Char} (hs : ds ++ rest <:+ cs)
    (hds : ∀ c ∈ ds, isDigit c = true) : Proceeds cs (number negative ds rest cs) := by
  have hrest : rest <:+ cs := (List.suffix_append ds rest).trans hs
  have hpart := getD_suffix fun x s (h : fraction? rest = some (x, s)) => fraction_suffix h
  unfold number
  dsimp only
  have hpower := getD_suffix fun x s
    (h : exponent? ((fraction? rest).map (·.2) |>.getD rest) = some (x, s)) => exponent_suffix h
  split
  · split
    · rename_i hlong
      refine ⟨nofun, fun _ => ⟨ds, ?_, hlong, hds⟩⟩
      exact (List.prefix_append ds rest).isInfix.trans hs.isInfix
    · exact .ok ((hpower.trans hpart).trans hrest)
  · exact .ok ((hpower.trans hpart).trans hrest)

theorem afterWord_suffix {w : List Char} (h : afterWord? w cs = some rest) : rest <:+ cs := by
  induction w generalizing cs with
  | nil =>
    cases h
    exact List.suffix_refl _
  | cons c w ih =>
    cases cs with
    | nil => cases h
    | cons d cs =>
      rw [afterWord?] at h
      split at h
      · exact (ih h).trans (List.suffix_cons d cs)
      · cases h

theorem proceeds_scalar (cs : List Char) : Proceeds cs (scalar cs) := by
  unfold scalar
  split
  · rename_i found hfound
    obtain ⟨w, -, hrest⟩ := List.exists_of_findSome?_eq_some hfound
    obtain ⟨r, hr, rfl⟩ := Option.map_eq_some_iff.1 hrest
    exact .ok (afterWord_suffix hr)
  · split
    rename_i negative unsigned hsign
    have hunsigned : unsigned <:+ cs := by
      split at hsign
      · cases hsign
        exact List.suffix_cons _ _
      · cases hsign
        exact List.suffix_refl _
    split
    · rename_i ds rest hwhole
      exact proceeds_number (whole_eq hwhole ▸ hunsigned) (isDigit_of_mem_whole hwhole)
    · exact .error nofun

/-- One step of fuel for each of the three readers at once. -/
theorem proceeds_of_fuel (fuel : Nat) : (∀ cs, Proceeds cs (value fuel cs)) ∧
    (∀ cs, Proceeds cs (items fuel cs)) ∧ ∀ cs, Proceeds cs (members fuel cs) := by
  induction fuel with
  | zero => exact ⟨fun _ => .error (by simp), fun _ => .error (by simp), fun _ => .error (by simp)⟩
  | succ fuel ih =>
    obtain ⟨hvalue, hitems, hmembers⟩ := ih
    refine ⟨fun cs => ?_, fun cs => ?_, fun cs => ?_⟩
    · unfold value
      split
      · rename_i r
        refine ((proceeds_quotedText r).bind fun s rest _ => ?_).mono (List.suffix_cons _ _)
        exact .ok (List.suffix_refl rest)
      · rename_i r
        refine Proceeds.mono ?_ ((skip_suffix r).trans (List.suffix_cons _ _))
        split
        · rename_i rest h
          rw [h]
          exact .ok (List.suffix_cons _ _)
        · exact (hitems _).bind fun vs rest _ => .ok (List.suffix_refl rest)
      · rename_i r
        refine Proceeds.mono ?_ ((skip_suffix r).trans (List.suffix_cons _ _))
        split
        · rename_i rest h
          rw [h]
          exact .ok (List.suffix_cons _ _)
        · exact (hmembers _).bind fun es rest _ => .ok (List.suffix_refl rest)
      · exact proceeds_scalar cs
    · unfold items
      refine (hvalue cs).bind fun v rest _ => Proceeds.mono ?_ (skip_suffix rest)
      dsimp only
      split
      · rename_i rest' h
        rw [h]
        exact .ok (List.suffix_cons _ _)
      · rename_i rest' h
        rw [h]
        refine Proceeds.mono ?_ ((skip_suffix rest').trans (List.suffix_cons _ _))
        exact (hitems _).bind fun vs s _ => .ok (List.suffix_refl s)
      · exact .error (by simp)
    · unfold members
      split
      · rename_i r
        refine ((proceeds_quotedText r).bind fun k rest _ =>
          Proceeds.mono ?_ (skip_suffix rest)).mono (List.suffix_cons _ _)
        dsimp only
        split
        · rename_i rest' h
          rw [h]
          refine Proceeds.mono ?_ ((skip_suffix rest').trans (List.suffix_cons _ _))
          refine (hvalue _).bind fun v s _ => Proceeds.mono ?_ (skip_suffix s)
          dsimp only
          split
          · rename_i s' h
            rw [h]
            exact .ok (List.suffix_cons _ _)
          · rename_i s' h
            rw [h]
            refine Proceeds.mono ?_ ((skip_suffix s').trans (List.suffix_cons _ _))
            exact (hmembers _).bind fun es s'' _ => .ok (List.suffix_refl s'')
          · exact .error (by simp)
        · exact .error (by simp)
      · exact .error (by simp)

end Reader

/-- A document is given up for its numbers only if there are too many digits in a row in it. -/
theorem hasLongRun_of_parse {f : Fault} (h : parse cs = .error f) (hf : f.isForm = false) :
    Reader.HasLongRun cs := by
  obtain ⟨s, hs, rfl⟩ := mapError_eq_error.1 h
  obtain ⟨complaint, left⟩ := s
  cases complaint with
  | longInteger n =>
    unfold Reader.document at hs
    split at hs
    · cases hs
    · obtain h | ⟨⟨v, rest⟩, -, h⟩ := bind_eq_error.1 hs
      · exact (((Reader.proceeds_of_fuel _).1 _).long h).mono (Reader.skip_suffix _)
      · dsimp only at h
        split at h <;> cases h
  | _ => cases hf

end UmlPress.Json
