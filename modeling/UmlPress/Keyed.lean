/-!
# Lists with keys

Pairs of a key and a value, in the order in which the keys were first put.
Putting a key again changes its value and leaves it in its place.
-/
namespace UmlPress

abbrev Keyed (κ α : Type) := List (κ × α)

namespace Keyed
variable {κ α : Type} [DecidableEq κ]

def get? (key : κ) : Keyed κ α → Option α
  | [] => none
  | (k, v) :: r => if k = key then some v else get? key r

def put (key : κ) (value : α) : Keyed κ α → Keyed κ α
  | [] => [(key, value)]
  | (k, v) :: r => if k = key then (k, value) :: r else (k, v) :: put key value r

/-- Puts every pair of the second list, in its order. -/
def update (es more : Keyed κ α) : Keyed κ α := more.foldl (fun acc e => put e.1 e.2 acc) es

def ofList (es : List (κ × α)) : Keyed κ α := update [] es

def keys (es : Keyed κ α) : List κ := es.map (·.1)

/-- The value of the last pair with a key, where keys may stand more than once. -/
def last? (key : κ) (es : List (κ × α)) : Option α := get? key es.reverse

theorem get?_put (key k : κ) (v : α) (es : Keyed κ α) :
    get? key (put k v es) = if k = key then some v else get? key es := by
  induction es with
  | nil => simp [put, get?]
  | cons e r ih =>
    obtain ⟨a, w⟩ := e
    by_cases hk : a = k
    · subst hk
      by_cases h : a = key <;> simp [put, get?, h]
    · by_cases h : a = key
      · subst h
        simp [put, get?, hk, Ne.symm hk]
      · simp [put, get?, hk, h, ih]

theorem mem_of_get? {key : κ} {v : α} {es : Keyed κ α} (h : get? key es = some v) :
    (key, v) ∈ es := by
  induction es with
  | nil => cases h
  | cons e r ih =>
    rw [get?] at h
    split at h
    · rename_i hk
      rw [← hk, ← Option.some.inj h]
      exact List.mem_cons_self
    · exact List.mem_cons_of_mem _ (ih h)

theorem get?_ne_none_of_mem {key : κ} {v : α} {es : Keyed κ α} (h : (key, v) ∈ es) :
    get? key es ≠ none := by
  induction es with
  | nil => cases h
  | cons e r ih =>
    rw [get?]
    split
    · exact Option.some_ne_none _
    · rename_i hk
      rcases List.mem_cons.1 h with rfl | h
      · exact absurd rfl hk
      · exact ih h

theorem get?_append (key : κ) (es fs : Keyed κ α) :
    get? key (es ++ fs) = (get? key es).or (get? key fs) := by
  induction es with
  | nil => rfl
  | cons e r ih =>
    by_cases h : e.1 = key
    · simp [get?, h]
    · simp [get?, h, ih]

theorem last?_cons (key k : κ) (v : α) (es : List (κ × α)) :
    last? key ((k, v) :: es) = (last? key es).or (if k = key then some v else none) := by
  rw [last?, List.reverse_cons, get?_append]
  rfl

theorem last?_eq_none {key : κ} {es : List (κ × α)} (h : key ∉ es.map (·.1)) :
    last? key es = none := by
  induction es with
  | nil => rfl
  | cons e r ih =>
    rw [List.map_cons, List.mem_cons, not_or] at h
    rw [last?_cons, ih h.2, if_neg (Ne.symm h.1)]
    rfl

/-- With keys that differ every pair is the last one of its key. -/
theorem last?_of_mem {key : κ} {v : α} {es : List (κ × α)} (hn : (es.map (·.1)).Nodup)
    (h : (key, v) ∈ es) : last? key es = some v := by
  induction es with
  | nil => cases h
  | cons e r ih =>
    rw [List.map_cons, List.nodup_cons] at hn
    rw [last?_cons]
    rcases List.mem_cons.1 h with rfl | h
    · rw [last?_eq_none hn.1, if_pos rfl]
      rfl
    · rw [ih hn.2 h]
      rfl

/-- Pairs whose keys differ give each key the same value in any order. -/
theorem last?_perm {es fs : List (κ × α)} (hn : (es.map (·.1)).Nodup) (h : es.Perm fs) (key : κ) :
    last? key es = last? key fs := by
  have hkeys : (es.map (·.1)).Perm (fs.map (·.1)) := h.map _
  by_cases hkey : key ∈ es.map (·.1)
  · obtain ⟨⟨k, v⟩, hmem, rfl⟩ := List.mem_map.1 hkey
    rw [last?_of_mem hn hmem, last?_of_mem (hkeys.nodup_iff.1 hn) (h.mem_iff.1 hmem)]
  · rw [last?_eq_none hkey, last?_eq_none fun hmem => hkey (hkeys.mem_iff.2 hmem)]

theorem update_nil (es : Keyed κ α) : update es [] = es := rfl

theorem update_cons (es : Keyed κ α) (k : κ) (v : α) (r : Keyed κ α) :
    update es ((k, v) :: r) = update (put k v es) r := rfl

theorem get?_update (key : κ) (es more : Keyed κ α) :
    get? key (update es more) = (last? key more).or (get? key es) := by
  induction more generalizing es with
  | nil => rfl
  | cons e r ih =>
    rw [update_cons, ih, get?_put, last?_cons, Option.or_assoc]
    by_cases h : e.1 = key <;> simp [h]

end Keyed
end UmlPress
