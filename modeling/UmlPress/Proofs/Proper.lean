import Mathlib.Data.List.TakeWhile
import UmlPress.Json.Reader
import UmlPress.Proofs.Fallible
import UmlPress.Proofs.Overlay

/-!
# What a reader can give

No key stands twice in an object that was read, at any depth: of several entries with
one key the last one is kept, in the place of the first.
-/
namespace UmlPress.Json

def keysOnce : Json → Bool
  | .object entries => decide (Keyed.keys entries).Nodup
  | _ => true

variable {p : Json → Bool} {vs : List Json} {entries : Entries} {cs rest : List Char} {v : Json}

theorem allItems_iff : allItems p vs = true ↔ ∀ v ∈ vs, v.all p = true := by
  induction vs with
  | nil => simp [allItems]
  | cons v r ih => rw [allItems, Bool.and_eq_true, ih, List.forall_mem_cons]

theorem allEntries_iff : allEntries p entries = true ↔ ∀ e ∈ entries, e.2.all p = true := by
  induction entries with
  | nil => simp [allEntries]
  | cons e r ih => rw [allEntries, Bool.and_eq_true, ih, List.forall_mem_cons]

theorem all_list : (Json.list vs).all p = true ↔
    p (.list vs) = true ∧ ∀ v ∈ vs, v.all p = true := by
  rw [all, Bool.and_eq_true, allItems_iff]

theorem all_object : (Json.object entries).all p = true ↔
    p (.object entries) = true ∧ ∀ e ∈ entries, e.2.all p = true := by
  rw [all, Bool.and_eq_true, allEntries_iff]

theorem keysOnce_object : (Json.object entries).keysOnce = true ↔ (Keyed.keys entries).Nodup :=
  decide_eq_true_iff

theorem nodup_of_all_keysOnce (h : (Json.object entries).all keysOnce = true) :
    (Keyed.keys entries).Nodup :=
  keysOnce_object.1 (all_object.1 h).1

namespace Reader

structure Reads (p : Json → Bool) : Prop where
  scalar : ∀ {cs v rest}, scalar cs = .ok (v, rest) → v.all p = true
  text : ∀ s, p (.text s) = true
  list : ∀ vs, p (.list vs) = true
  object : ∀ entries, p (.object (Keyed.ofList entries)) = true

theorem Reads.all_ofList (h : Reads p) (hall : ∀ e ∈ entries, e.2.all p = true) :
    (Json.object (Keyed.ofList entries)).all p = true :=
  all_object.2 ⟨h.object _, fun e he => hall e ((Keyed.mem_update he).resolve_left List.not_mem_nil)⟩

/-- One step of fuel for each of the three readers at once. -/
theorem Reads.all_of_fuel (h : Reads p) (fuel : Nat) :
    (∀ {cs v rest}, value fuel cs = .ok (v, rest) → v.all p = true) ∧
    (∀ {cs vs rest}, items fuel cs = .ok (vs, rest) → ∀ v ∈ vs, v.all p = true) ∧
    (∀ {cs es rest}, members fuel cs = .ok (es, rest) → ∀ e ∈ es, e.2.all p = true) := by
  induction fuel with
  | zero => exact ⟨nofun, nofun, nofun⟩
  | succ fuel ih =>
    obtain ⟨hvalue, hitems, hmembers⟩ := ih
    refine ⟨fun {cs v rest} hv => ?_, fun {cs vs rest} hv => ?_, fun {cs es rest} hv => ?_⟩
    · unfold value at hv
      split at hv
      · obtain ⟨⟨s, r⟩, -, hv⟩ := bind_eq_ok.1 hv
        cases hv
        exact h.text s
      · split at hv
        · cases hv
          exact all_list.2 ⟨h.list [], nofun⟩
        · obtain ⟨⟨vs, r⟩, hvs, hv⟩ := bind_eq_ok.1 hv
          cases hv
          exact all_list.2 ⟨h.list vs, hitems hvs⟩
      · split at hv
        · cases hv
          change (Json.object (Keyed.ofList [])).all p = true
          exact h.all_ofList nofun
        · obtain ⟨⟨es, r⟩, hes, hv⟩ := bind_eq_ok.1 hv
          cases hv
          exact h.all_ofList (hmembers hes)
      · exact h.scalar hv
    · unfold items at hv
      obtain ⟨⟨x, r⟩, hx, hv⟩ := bind_eq_ok.1 hv
      dsimp only at hv
      split at hv
      · cases hv
        exact List.forall_mem_singleton.2 (hvalue hx)
      · obtain ⟨⟨xs, r'⟩, hxs, hv⟩ := bind_eq_ok.1 hv
        cases hv
        exact List.forall_mem_cons.2 ⟨hvalue hx, hitems hxs⟩
      · cases hv
    · unfold members at hv
      split at hv
      · obtain ⟨⟨k, r⟩, -, hv⟩ := bind_eq_ok.1 hv
        dsimp only at hv
        split at hv
        · obtain ⟨⟨x, r'⟩, hx, hv⟩ := bind_eq_ok.1 hv
          dsimp only at hv
          split at hv
          · cases hv
            exact List.forall_mem_singleton.2 (hvalue hx)
          · obtain ⟨⟨xs, r''⟩, hxs, hv⟩ := bind_eq_ok.1 hv
            cases hv
            exact List.forall_mem_cons.2 ⟨hvalue hx, hmembers hxs⟩
          · cases hv
        · cases hv
      · cases hv

theorem Reads.all_of_document (h : Reads p) (hv : document cs = .ok v) : v.all p = true := by
  unfold document at hv
  split at hv
  · cases hv
  · obtain ⟨⟨w, r⟩, hw, hv⟩ := bind_eq_ok.1 hv
    dsimp only at hv
    split at hv
    · cases hv
      exact (h.all_of_fuel _).1 hw
    · cases hv

theorem isDigit_of_mem_whole {digits : List Char} (h : whole? cs = some (digits, rest)) :
    ∀ c ∈ digits, isDigit c = true := by
  unfold whole? at h
  split at h
  · cases h
    exact List.forall_mem_singleton.2 rfl
  · split at h
    · cases h
      exact fun c hc => List.mem_takeWhile_imp hc
    · cases h
  · cases h

/-- A word or a number has nothing inside it. -/
theorem exists_of_scalar (h : scalar cs = .ok (v, rest)) :
    (∃ w ∈ words, v = w.2) ∨
    (∃ (negative : Bool) (digits : List Char), digits.length ≤ digitLimit ∧
      (∀ c ∈ digits, isDigit c = true) ∧
      v = .int (if negative then -(digitsValue digits : Int) else digitsValue digits)) ∨
    ∃ negative digits e, v = .real (.ofDecimal negative digits e) := by
  unfold scalar at h
  split at h
  · rename_i found hfound
    cases h
    obtain ⟨w, hw, hrest⟩ := List.exists_of_findSome?_eq_some hfound
    obtain ⟨r, -, heq⟩ := Option.map_eq_some_iff.1 hrest
    exact .inl ⟨w, hw, (congrArg Prod.fst heq).symm⟩
  · split at h
    rename_i negative unsigned _
    split at h
    · rename_i digits r hwhole
      unfold number at h
      dsimp only at h
      split at h
      · split at h
        · cases h
        · rename_i hlimit
          cases h
          exact .inr (.inl ⟨negative, digits, Nat.not_lt.1 hlimit, isDigit_of_mem_whole hwhole,
            rfl⟩)
      · cases h
        exact .inr (.inr ⟨_, _, _, rfl⟩)
    · cases h

theorem reads_keysOnce : Reads keysOnce where
  scalar h := by
    obtain ⟨w, hw, rfl⟩ | ⟨negative, digits, -, -, rfl⟩ | ⟨negative, digits, e, rfl⟩ :=
      exists_of_scalar h
    · exact (by decide : ∀ w ∈ words, w.2.all keysOnce = true) w hw
    · rfl
    · rfl
  text _ := rfl
  list _ := rfl
  object entries := keysOnce_object.2 (Keyed.nodup_keys_ofList entries)

theorem Reads.all_of_parse (h : Reads p) (hv : parse cs = .ok v) : v.all p = true :=
  h.all_of_document (mapError_eq_ok.1 hv)

end Reader

end UmlPress.Json
