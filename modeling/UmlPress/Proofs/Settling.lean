import UmlPress.Options.Layers
import UmlPress.Proofs.Fallible
import UmlPress.Proofs.Overlay

/-!
# Settings from their layers

The layers laid over one another are a list of entries that has the options in front, in
their order and under their own names. What it says of an option is said by the last entry
that names it, and a draft has what the list says.
-/
namespace UmlPress.Options
variable {es file overrides : Entries} {name key : String} {o : Options} {d : Draft}

/-! Names. -/

theorem optionName_of_alias : ∀ e ∈ aliases, optionName e.2 = e.2 := by decide

theorem optionName_optionName (name : String) : optionName (optionName name) = optionName name := by
  unfold optionName
  cases h : Keyed.get? name aliases with
  | none => rw [Option.getD_none, h, Option.getD_none]
  | some target => exact optionName_of_alias _ (Keyed.mem_of_get? h)

theorem isOption_of_mem (h : name ∈ Draft.optionNames) : Draft.isOption name = true := by
  rw [Draft.isOption, Bool.or_eq_true, decide_eq_true_iff]
  exact .inl h

theorem optionName_of_isOption (h : Draft.isOption name = true) : optionName name = name := by
  have hall : ∀ name ∈ "custom" :: Draft.optionNames, optionName name = name := by decide
  refine hall name ?_
  rw [Draft.isOption, Bool.or_eq_true, decide_eq_true_iff, decide_eq_true_iff] at h
  exact List.mem_cons.2 h.symm

def renamed (es : Entries) : Entries := es.map fun e => (optionName e.1, e.2)

/-- The value of the last entry that names an option. -/
def naming? (option : String) (es : Entries) : Option Json := Keyed.last? option (renamed es)

theorem last?_named (name : String) (es : Entries) :
    Keyed.last? name (named es) = naming? name es := by
  exact (Keyed.last?_eq_get? (Keyed.nodup_keys_ofList _) name).trans (Keyed.get?_ofList name _)

theorem optionName_of_mem_named (h : name ∈ Keyed.keys (named es)) : optionName name = name := by
  rcases Keyed.mem_keys_update.1 h with h | h
  · cases h
  · obtain ⟨e, he, rfl⟩ := List.mem_map.1 h
    obtain ⟨f, -, rfl⟩ := List.mem_map.1 he
    exact optionName_optionName f.1

theorem named_eq_self (hn : (Keyed.keys es).Nodup)
    (hnames : ∀ name ∈ Keyed.keys es, optionName name = name) : named es = es := by
  have hmap : (es.map fun e => (optionName e.1, e.2)) = es := by
    refine (List.map_congr_left fun e he => ?_).trans (List.map_id es)
    rw [hnames e.1 (List.mem_map_of_mem he)]
    rfl
  rw [named, hmap, Keyed.ofList_of_nodup hn]

/-! Layers. -/

theorem keys_defaults : Keyed.keys defaults = Draft.optionNames := rfl

theorem nodup_optionNames : Draft.optionNames.Nodup := by decide

theorem nodup_layered (file overrides : Entries) : (Keyed.keys (layered file overrides)).Nodup :=
  Keyed.nodup_keys_update _ (Keyed.nodup_keys_update _ nodup_optionNames)

theorem optionNames_isPrefix_layered (file overrides : Entries) :
    Draft.optionNames <+: Keyed.keys (layered file overrides) :=
  (Keyed.keys_isPrefix_update defaults (named file)).trans (Keyed.keys_isPrefix_update _ _)

theorem optionName_of_mem_layered (h : name ∈ Keyed.keys (layered file overrides)) :
    optionName name = name := by
  rcases Keyed.mem_keys_update.1 h with h | h
  · rcases Keyed.mem_keys_update.1 h with h | h
    · exact optionName_of_isOption (isOption_of_mem h)
    · exact optionName_of_mem_named h
  · exact optionName_of_mem_named h

theorem mem_named {e : String × Json} (h : e ∈ named es) : ∃ f ∈ es, f.2 = e.2 := by
  rcases Keyed.mem_update h with h | h
  · cases h
  · obtain ⟨f, hf, rfl⟩ := List.mem_map.1 h
    exact ⟨f, hf, rfl⟩

/-- What holds of all values in the layers holds of those in the list. -/
theorem forall_mem_layered {P : Json → Prop} (hdefaults : ∀ e ∈ defaults, P e.2)
    (hfile : ∀ e ∈ file, P e.2) (hover : ∀ e ∈ overrides, P e.2) :
    ∀ e ∈ layered file overrides, P e.2 := by
  intro e he
  rcases Keyed.mem_update he with he | he
  · rcases Keyed.mem_update he with he | he
    · exact hdefaults e he
    · obtain ⟨f, hf, heq⟩ := mem_named he
      exact heq ▸ hfile f hf
  · obtain ⟨f, hf, heq⟩ := mem_named he
    exact heq ▸ hover f hf

/-- The overrides speak before the file and the file before the defaults. -/
theorem get?_layered (name : String) (file overrides : Entries) :
    Keyed.get? name (layered file overrides) =
      (naming? name overrides).or ((naming? name file).or (Keyed.get? name defaults)) := by
  rw [layered, Keyed.get?_update, Keyed.get?_update, last?_named, last?_named]

/-- What the layers come to is a layer that says it all. -/
theorem layered_layered (file overrides : Entries) :
    layered (layered file overrides) [] = layered file overrides := by
  have hnamed : named (layered file overrides) = layered file overrides :=
    named_eq_self (nodup_layered _ _) fun _ => optionName_of_mem_layered
  change Keyed.update defaults (named (layered file overrides)) = _
  rw [hnamed]
  exact Keyed.update_of_isPrefix (optionNames_isPrefix_layered _ _) (nodup_layered _ _)

/-! Drafts. -/

theorem optionEntries_set (d : Draft) (name : String) (value : Json) :
    (d.set name value).optionEntries =
      if name ∈ Draft.optionNames then Keyed.put name value d.optionEntries
      else d.optionEntries := by
  by_cases h : name ∈ Draft.optionNames
  · rw [if_pos h]
    simp only [Draft.optionNames, Keyed.keys, Draft.optionEntries, List.map_cons, List.map_nil,
      List.mem_cons, List.not_mem_nil, or_false] at h
    rcases h with rfl | rfl | rfl | rfl | rfl | rfl | rfl | rfl
    all_goals rfl
  · rw [if_neg h]
    unfold Draft.set
    split
    any_goals rfl
    all_goals exact absurd (by decide) h

theorem custom_set (d : Draft) (name : String) (value : Json) :
    (d.set name value).custom = if name = "custom" then .ofJson value else d.custom := by
  unfold Draft.set
  split
  any_goals rfl
  rename_i h
  rw [if_neg h]

theorem optionEntries_foldl_set (d : Draft) (es : Entries) :
    (es.foldl (fun d e => d.set e.1 e.2) d).optionEntries =
      Keyed.update d.optionEntries (es.filter fun e => e.1 ∈ Draft.optionNames) := by
  induction es generalizing d with
  | nil => rfl
  | cons e r ih =>
    rw [List.foldl_cons, ih, optionEntries_set, List.filter_cons]
    by_cases h : e.1 ∈ Draft.optionNames
    · rw [if_pos h, if_pos (decide_eq_true h), Keyed.update_cons]
    · rw [if_neg h, if_neg (by rwa [decide_eq_true_iff])]

theorem custom_foldl_set (d : Draft) (es : Entries) :
    (es.foldl (fun d e => d.set e.1 e.2) d).custom =
      ((Keyed.last? "custom" es).map CustomField.ofJson).getD d.custom := by
  induction es generalizing d with
  | nil => rfl
  | cons e r ih =>
    obtain ⟨k, v⟩ := e
    rw [List.foldl_cons, ih, custom_set, Keyed.last?_cons]
    cases Keyed.last? "custom" r with
    | some w => rfl
    | none =>
      split
      · rfl
      · rfl

def others (es : Entries) : Entries := es.filter fun e => !Draft.isOption e.1

def fieldOf (es : Entries) : CustomField :=
  ((Keyed.last? "custom" es).map CustomField.ofJson).getD (.entries [])

def customOf (field : CustomField) : Except LoadFault Custom :=
  if field.truthy then entriesOf field else .ok []

theorem last?_custom_filter (es : Entries) :
    Keyed.last? "custom" (es.filter fun e => Draft.isOption e.1) = Keyed.last? "custom" es :=
  Keyed.last?_filter _ (by decide) es

theorem filter_options (es : Entries) :
    ((es.filter fun e => Draft.isOption e.1).filter fun e => e.1 ∈ Draft.optionNames) =
      es.filter fun e => e.1 ∈ Draft.optionNames := by
  rw [List.filter_filter]
  refine List.filter_congr fun e _ => ?_
  rw [Draft.isOption]
  cases decide (e.1 ∈ Draft.optionNames) <;> rfl

def drafted (es : Entries) : Draft :=
  (es.filter fun e => Draft.isOption e.1).foldl (fun d e => d.set e.1 e.2) {}

theorem optionEntries_drafted (es : Entries) : (drafted es).optionEntries =
    Keyed.update defaults (es.filter fun e => e.1 ∈ Draft.optionNames) := by
  rw [drafted, optionEntries_foldl_set, filter_options]
  rfl

theorem custom_drafted (es : Entries) : (drafted es).custom = fieldOf es := by
  rw [drafted, custom_foldl_set, last?_custom_filter]
  rfl

theorem draftOf_eq (es : Entries) : draftOf es = if others es = [] then .ok (drafted es)
    else (customOf (fieldOf es)).map fun c =>
      { drafted es with custom := .entries ((Custom.ofList c).update (.ofEntries (others es))) } := by
  have hparts : es.partition (fun e => Draft.isOption e.1) =
      (es.filter fun e => Draft.isOption e.1, others es) := List.partition_eq_filter_filter ..
  unfold draftOf
  rw [hparts, customOf, ← custom_drafted, drafted]
  dsimp only
  by_cases hothers : others es = []
  · rw [if_pos hothers, if_pos (List.isEmpty_iff.2 hothers)]
    rfl
  · rw [if_neg hothers, if_neg fun h => hothers (List.isEmpty_iff.1 h)]
    split <;> rfl

/-- What a draft has, part by part. -/
theorem of_draftOf (h : draftOf es = .ok d) :
    d.optionEntries = Keyed.update defaults (es.filter fun e => e.1 ∈ Draft.optionNames) ∧
    ((others es = [] ∧ d.custom = fieldOf es) ∨
      others es ≠ [] ∧ ∃ c, customOf (fieldOf es) = .ok c ∧
        d.custom = .entries ((Custom.ofList c).update (.ofEntries (others es)))) := by
  rw [draftOf_eq] at h
  split at h
  case isTrue hothers =>
    cases h
    exact ⟨optionEntries_drafted es, .inl ⟨hothers, custom_drafted es⟩⟩
  case isFalse hothers =>
    obtain ⟨c, hc, rfl⟩ := map_eq_ok.1 h
    exact ⟨optionEntries_drafted es, .inr ⟨hothers, c, hc, rfl⟩⟩

theorem boolean_eq_ok {v : Json} {b : Bool} : Draft.boolean name v = .ok b ↔ v = .bool b := by
  unfold Draft.boolean
  split
  · simp
  · rename_i h
    simp only [reduceCtorEq, false_iff]
    exact h b

theorem width_eq_ok {v : Json} {n : Nat} : Draft.width v = .ok n ↔ v = .int n := by
  unfold Draft.width
  split
  · rename_i m
    constructor
    · rintro ⟨⟩
      rfl
    · intro h
      cases Int.ofNat.inj (Json.int.inj h)
      rfl
  · rename_i h
    simp only [reduceCtorEq, false_iff]
    exact h n

theorem text_eq_ok {v : Json} {s : String} : Draft.text name v = .ok s ↔ v = .text s := by
  unfold Draft.text
  split <;> simp_all

theorem textOrNull_eq_ok {v : Json} {s : Option String} :
    Draft.textOrNull name v = .ok s ↔ v = (s.map Json.text).getD .null := by
  unfold Draft.textOrNull
  split
  · cases s <;> simp
  · rename_i h
    rw [map_eq_ok]
    simp only [text_eq_ok]
    cases s <;> simp_all

theorem entries_eq_ok {field : CustomField} {c : Custom} :
    Draft.entries field = .ok c ↔ field = .entries c := by
  unfold Draft.entries
  split <;> simp

/-- A draft that passes the check is the record it gives. -/
theorem check_eq_ok : d.check = .ok o ↔ d = Draft.ofOptions o := by
  unfold Draft.check
  simp only [bind_eq_ok, boolean_eq_ok, width_eq_ok, text_eq_ok, textOrNull_eq_ok, entries_eq_ok]
  obtain ⟨t, n, p, c, b, e, i, dir, custom⟩ := d
  obtain ⟨t', n', p', c', b', e', i', dir', custom'⟩ := o
  constructor
  · rintro ⟨a, rfl, b, rfl, c, rfl, d, rfl, e, rfl, f, rfl, g, rfl, h, rfl, k, rfl, heq⟩
    cases heq
    rfl
  · intro h
    cases h
    exact ⟨_, rfl, _, rfl, _, rfl, _, rfl, _, rfl, _, rfl, _, rfl, _, rfl, _, rfl, rfl⟩

theorem checked_eq_ok : d.checked = .ok o ↔ d = Draft.ofOptions o := by
  unfold Draft.checked
  rw [mapError_eq_ok, check_eq_ok]

/-- Settings are settled if the draft of their layers has the types of a record. -/
theorem settle_eq_ok : settle file overrides = .ok o ↔
    draftOf (layered file overrides) = .ok (Draft.ofOptions o) := by
  unfold settle
  simp only [bind_eq_ok, checked_eq_ok]
  constructor
  · rintro ⟨d, hd, rfl⟩
    exact hd
  · exact fun h => ⟨_, h, rfl⟩

end UmlPress.Options
