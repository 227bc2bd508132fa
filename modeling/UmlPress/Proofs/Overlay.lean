import UmlPress.Keyed

/-!
# Lists with keys laid over one another

Putting pairs into a list keeps the keys it has in their places and adds new ones
behind. So no key comes to stand twice, what is found under a key is the value that was
put last, and a list that is laid over one with the same keys takes its place.
-/
namespace UmlPress.Keyed
section
variable {κ α : Type}

theorem keys_cons (e : κ × α) (es : Keyed κ α) : keys (e :: es) = e.1 :: keys es := rfl

theorem keys_append (es fs : Keyed κ α) : keys (es ++ fs) = keys es ++ keys fs :=
  List.map_append

end

variable {κ α : Type} [DecidableEq κ] {key : κ} {value : α} {es fs : Keyed κ α}

theorem keys_put_of_mem (h : key ∈ keys es) : keys (put key value es) = keys es := by
  induction es with
  | nil => cases h
  | cons e r ih =>
    rw [put]
    split
    · rfl
    · rename_i hne
      rw [keys_cons, ih ((List.mem_cons.1 h).resolve_left (Ne.symm hne)), keys_cons]

theorem put_of_not_mem (h : key ∉ keys es) : put key value es = es ++ [(key, value)] := by
  induction es with
  | nil => rfl
  | cons e r ih =>
    rw [keys_cons, List.mem_cons, not_or] at h
    rw [put, if_neg (Ne.symm h.1), ih h.2]
    rfl

theorem keys_put (key : κ) (value : α) (es : Keyed κ α) :
    keys (put key value es) = if key ∈ keys es then keys es else keys es ++ [key] := by
  split
  · rename_i h
    exact keys_put_of_mem h
  · rename_i h
    rw [put_of_not_mem h, keys_append]
    rfl

/-- The keys after an update are told by the keys before it. -/
theorem keys_update_congr (more : Keyed κ α) (h : keys es = keys fs) :
    keys (update es more) = keys (update fs more) := by
  induction more generalizing es fs with
  | nil => exact h
  | cons e r ih =>
    have hput : keys (put e.1 e.2 es) = keys (put e.1 e.2 fs) := by
      rw [keys_put, keys_put, h]
    exact ih hput

theorem nodup_keys_put (h : (keys es).Nodup) : (keys (put key value es)).Nodup := by
  rw [keys_put]
  split
  · exact h
  · rename_i hnot
    rw [List.nodup_append]
    refine ⟨h, List.pairwise_singleton _ _, fun a ha b hb heq => hnot ?_⟩
    rwa [← List.mem_singleton.1 hb, ← heq]

theorem nodup_keys_update (more : Keyed κ α) (h : (keys es).Nodup) :
    (keys (update es more)).Nodup := by
  induction more generalizing es with
  | nil => exact h
  | cons e r ih => exact ih (nodup_keys_put h)

theorem nodup_keys_ofList (es : List (κ × α)) : (keys (ofList es)).Nodup :=
  nodup_keys_update es List.nodup_nil

/-- The keys that a list has stay in front. -/
theorem keys_isPrefix_update (es more : Keyed κ α) : keys es <+: keys (update es more) := by
  induction more generalizing es with
  | nil => exact List.prefix_refl _
  | cons e r ih =>
    refine List.IsPrefix.trans ?_ (ih _)
    rw [keys_put]
    split
    · exact List.prefix_refl _
    · exact List.prefix_append _ _

theorem mem_keys_put {k : κ} : k ∈ keys (put key value es) ↔ k ∈ keys es ∨ k = key := by
  rw [keys_put]
  split
  · rename_i h
    exact ⟨.inl, fun hk => hk.elim id fun heq => heq ▸ h⟩
  · rw [List.mem_append, List.mem_singleton]

theorem mem_keys_update {k : κ} : k ∈ keys (update es fs) ↔ k ∈ keys es ∨ k ∈ keys fs := by
  induction fs generalizing es with
  | nil => simp [update_nil, keys]
  | cons e r ih => rw [update_cons, ih, mem_keys_put, keys_cons, List.mem_cons, or_assoc]

theorem mem_put {e : κ × α} (h : e ∈ put key value es) : e ∈ es ∨ e = (key, value) := by
  induction es with
  | nil => exact .inr (List.mem_singleton.1 h)
  | cons f r ih =>
    rw [put] at h
    split at h
    · rename_i hk
      rcases List.mem_cons.1 h with rfl | h
      · exact .inr (by rw [hk])
      · exact .inl (List.mem_cons_of_mem _ h)
    · rcases List.mem_cons.1 h with rfl | h
      · exact .inl List.mem_cons_self
      · exact (ih h).imp (List.mem_cons_of_mem _) id

/-- Nothing stands in the result that was in neither list. -/
theorem mem_update {e : κ × α} (h : e ∈ update es fs) : e ∈ es ∨ e ∈ fs := by
  induction fs generalizing es with
  | nil => exact .inl h
  | cons f r ih =>
    rcases ih h with h | h
    · refine (mem_put h).imp id fun h => ?_
      rw [h]
      exact List.mem_cons_self
    · exact .inr (List.mem_cons_of_mem _ h)

theorem update_append (es fs gs : Keyed κ α) : update es (fs ++ gs) = update (update es fs) gs :=
  List.foldl_append

/-- New keys are put behind. -/
theorem update_of_nodup (h : (keys (es ++ fs)).Nodup) : update es fs = es ++ fs := by
  induction fs generalizing es with
  | nil => rw [update_nil, List.append_nil]
  | cons e r ih =>
    rw [List.append_cons] at h ⊢
    have hnew : e.1 ∉ keys es := by
      rw [keys_append, List.nodup_append] at h
      have hes := h.1
      rw [keys_append, List.nodup_append] at hes
      exact fun hmem => hes.2.2 _ hmem _ (List.mem_singleton_self _) rfl
    rw [update_cons, put_of_not_mem hnew, ih h]

theorem ofList_of_nodup (h : (keys es).Nodup) : ofList es = es := update_of_nodup h

theorem put_put (key : κ) (v w : α) (es : Keyed κ α) :
    put key w (put key v es) = put key w es := by
  induction es with
  | nil => simp [put]
  | cons e r ih =>
    obtain ⟨k, u⟩ := e
    by_cases h : k = key
    · simp [put, h]
    · simp [put, h, ih]

/-- A list takes the place of one with the same keys. -/
theorem update_of_keys_eq (h : keys es = keys fs) (hn : (keys fs).Nodup) : update es fs = fs := by
  suffices ∀ done, (keys (done ++ fs)).Nodup → update (done ++ es) fs = done ++ fs from
    this [] hn
  induction fs generalizing es with
  | nil =>
    obtain rfl : es = [] := List.map_eq_nil_iff.1 h
    exact fun done _ => rfl
  | cons f r ih =>
    obtain _ | ⟨e, es⟩ := es
    · cases h
    obtain ⟨hkey, hrest⟩ := List.cons.inj h
    intro done hdone
    have hput : put f.1 f.2 (done ++ e :: es) = done ++ [f] ++ es := by
      clear ih hn h hrest
      induction done with
      | nil =>
        rw [List.nil_append, put, if_pos hkey, show e.1 = f.1 from hkey]
        rfl
      | cons d done ihd =>
        rw [List.cons_append, keys_cons, List.nodup_cons] at hdone
        have hne : d.1 ≠ f.1 := by
          intro heq
          refine hdone.1 ?_
          rw [heq, keys_append]
          exact List.mem_append_right _ List.mem_cons_self
        rw [List.cons_append, put, if_neg hne, ihd hdone.2]
        rfl
    rw [update_cons, hput, ih hrest (List.nodup_cons.1 hn).2 _ (by rwa [List.append_assoc]),
      List.append_assoc]
    rfl

/-- A list takes the place of the beginning of itself. -/
theorem update_of_isPrefix (h : keys es <+: keys fs) (hn : (keys fs).Nodup) : update es fs = fs := by
  have hkeys : keys es = keys (fs.take es.length) := by
    rw [List.prefix_iff_eq_take.1 h, keys, keys, keys, List.length_map, List.map_take]
  have hsplit := List.take_append_drop es.length fs
  rw [← hsplit, update_append, update_of_keys_eq hkeys]
  · exact update_of_nodup (by rwa [hsplit])
  · rw [← hkeys]
    exact h.sublist.nodup hn

theorem get?_eq_none_iff : get? key es = none ↔ key ∉ keys es := by
  induction es with
  | nil => simp [get?, keys]
  | cons e r ih =>
    rw [get?, keys_cons, List.mem_cons, not_or]
    split
    · rename_i h
      simp [h]
    · rename_i h
      rw [ih, and_iff_right (Ne.symm h)]

/-- A list whose keys differ is known by them and by what is found under each. -/
theorem eq_of_get? (hkeys : keys es = keys fs) (hn : (keys es).Nodup)
    (h : ∀ key ∈ keys es, get? key es = get? key fs) : es = fs := by
  induction es generalizing fs with
  | nil => exact (List.map_eq_nil_iff.1 hkeys.symm).symm
  | cons e r ih =>
    obtain _ | ⟨f, fs⟩ := fs
    · cases hkeys
    obtain ⟨hkey, hrest⟩ := List.cons.inj hkeys
    have hkey : e.1 = f.1 := hkey
    rw [keys_cons, List.nodup_cons] at hn
    obtain ⟨hfirst, hothers⟩ := List.forall_mem_cons.1 h
    rw [get?, get?, if_pos rfl, if_pos hkey.symm] at hfirst
    have htail : r = fs := ih hrest hn.2 fun key hmem => by
      have hne : e.1 ≠ key := fun heq => hn.1 (heq ▸ hmem)
      have hvalue := hothers key hmem
      rwa [get?, get?, if_neg hne, if_neg (hkey ▸ hne)] at hvalue
    rw [Prod.ext hkey (Option.some.inj hfirst), htail]

/-- With keys that differ the first value is the last one. -/
theorem last?_eq_get? (hn : (keys es).Nodup) (key : κ) : last? key es = get? key es := by
  cases h : get? key es with
  | none => exact last?_eq_none (get?_eq_none_iff.1 h)
  | some v => exact last?_of_mem hn (mem_of_get? h)

theorem get?_ofList (key : κ) (es : List (κ × α)) : get? key (ofList es) = last? key es := by
  rw [ofList, get?_update]
  exact Option.or_none

theorem last?_filter (p : κ → Bool) (hp : p key = true) (es : List (κ × α)) :
    last? key (es.filter fun e => p e.1) = last? key es := by
  induction es with
  | nil => rfl
  | cons e r ih =>
    obtain ⟨k, v⟩ := e
    rw [last?_cons]
    by_cases hk : p k = true
    · rw [List.filter_cons_of_pos (by exact hk), last?_cons, ih]
    · have hne : k ≠ key := fun heq => hk (heq ▸ hp)
      rw [List.filter_cons_of_neg (by exact hk), ih, if_neg hne, Option.or_none]

end UmlPress.Keyed
