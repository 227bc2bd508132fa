import UmlPress.Proofs.Checked

/-!
# Custom entries in the place of options

A record's flat set has the options in front and the custom entries laid over them. A custom
entry under an option's own name takes the option's value away, and one under an alias takes it
away when the flat set is read again. Custom entries may have keys that are no texts, so a flat
set is read by entries of any keys; for those with texts as keys it is the same reading.
-/
namespace UmlPress

namespace Keyed
variable {κ α : Type} [DecidableEq κ] {key : κ} {value : α} {es fs more : Keyed κ α}

theorem put_append_of_mem (h : key ∈ keys es) :
    put key value (es ++ fs) = put key value es ++ fs := by
  induction es with
  | nil => cases h
  | cons e r ih =>
    rw [List.cons_append, put, put]
    split
    · rfl
    · rename_i hne
      rw [ih ((List.mem_cons.1 h).resolve_left (Ne.symm hne))]
      rfl

/-- Of pairs that are put, those with keys that are there are put in their places and the
others behind. -/
theorem update_append_eq (hn : (keys (fs ++ more)).Nodup) (hfs : ∀ e ∈ fs, e.1 ∉ keys es) :
    update (es ++ fs) more = update es (more.filter fun e => e.1 ∈ keys es) ++
      (fs ++ more.filter fun e => e.1 ∉ keys es) := by
  induction more generalizing es fs with
  | nil => rw [update_nil, List.filter_nil, update_nil, List.filter_nil, List.append_nil]
  | cons e r ih =>
    rw [update_cons]
    by_cases he : e.1 ∈ keys es
    · have hkeys : keys (put e.1 e.2 es) = keys es := keys_put_of_mem he
      have hsublist : (keys (fs ++ r)).Sublist (keys (fs ++ e :: r)) :=
        ((List.sublist_cons_self e r).append_left fs).map _
      have hrest := hsublist.nodup hn
      rw [put_append_of_mem he, ih hrest (by rwa [hkeys]), hkeys,
        List.filter_cons_of_pos (by simpa using he), List.filter_cons_of_neg (by simpa using he),
        update_cons]
    · have hnew : e.1 ∉ keys (es ++ fs) := by
        rw [keys_append, List.nodup_append] at hn
        rw [keys_append, List.mem_append, not_or]
        exact ⟨he, fun hmem => hn.2.2 _ hmem _ List.mem_cons_self rfl⟩
      rw [put_of_not_mem hnew, List.append_assoc, ih (by rwa [List.append_assoc]),
        List.filter_cons_of_neg (by simpa using he), List.filter_cons_of_pos (by simpa using he)]
      · simp
      · rw [List.forall_mem_append, List.forall_mem_singleton]
        exact ⟨hfs, he⟩

theorem update_eq_append (hn : (keys more).Nodup) :
    update es more = update es (more.filter fun e => e.1 ∈ keys es) ++
      more.filter fun e => e.1 ∉ keys es := by
  have h : update (es ++ []) more = _ := update_append_eq hn (List.forall_mem_nil _)
  rwa [List.append_nil] at h

theorem keys_update_of_mem (h : ∀ e ∈ more, e.1 ∈ keys es) : keys (update es more) = keys es := by
  induction more generalizing es with
  | nil => rfl
  | cons e r ih =>
    obtain ⟨he, hr⟩ := List.forall_mem_cons.1 h
    have hkeys : keys (put e.1 e.2 es) = keys es := keys_put_of_mem he
    rw [update_cons, ih (by rwa [hkeys]), hkeys]

end Keyed

namespace Custom
variable {c more : Custom} {k v : Json} {key : String}

def texts : Custom → Entries
  | [] => []
  | (.text k, v) :: r => (k, v) :: texts r
  | _ :: r => texts r

theorem texts_ofEntries (es : Entries) : texts (ofEntries es) = es := by
  induction es with
  | nil => rfl
  | cons e r ih => exact congrArg ((e.1, e.2) :: ·) ih

theorem get?_text (c : Custom) (key : String) : c.get? (.text key) = Keyed.get? key c.texts := by
  fun_induction texts c with
  | case1 => rfl
  | case2 k v r ih => simp [get?, Keyed.get?, Json.sameKey_text_iff, ih]
  | case3 e r hno ih =>
    have hne : e.1 ≠ .text key := fun heq => hno key e.2 (Prod.ext heq rfl)
    simp [get?, Json.sameKey_text_iff, hne, ih]

theorem texts_cons_of_ne (hk : ∀ s, k ≠ .text s) (r : Custom) : texts ((k, v) :: r) = texts r := by
  rw [texts]
  intro s w heq
  exact hk s (Prod.mk.inj heq).1

/-- A key that is no text has no part in the entries with texts. -/
theorem texts_put_of_ne (hk : ∀ s, k ≠ .text s) (c : Custom) : texts (c.put k v) = texts c := by
  induction c with
  | nil => exact texts_cons_of_ne hk []
  | cons e r ih =>
    obtain ⟨a, w⟩ := e
    rw [put]
    split
    · rename_i hsame
      have ha : ∀ s, a ≠ .text s := by
        rintro s rfl
        exact hk s (Json.text_sameKey_iff.1 hsame)
      rw [texts_cons_of_ne ha, texts_cons_of_ne ha]
    · by_cases ha : ∃ s, a = .text s
      · obtain ⟨s, rfl⟩ := ha
        rw [texts, texts, ih]
      · rw [not_exists] at ha
        rw [texts_cons_of_ne ha, texts_cons_of_ne ha, ih]

theorem texts_put_text (c : Custom) : texts (c.put (.text key) v) = Keyed.put key v (texts c) := by
  induction c with
  | nil => rfl
  | cons e r ih =>
    obtain ⟨a, w⟩ := e
    by_cases ha : ∃ s, a = .text s
    · obtain ⟨s, rfl⟩ := ha
      by_cases heq : s = key
      · simp [put, texts, Keyed.put, sameKey_text, heq]
      · simp [put, texts, Keyed.put, sameKey_text, heq, ih]
    · rw [not_exists] at ha
      rw [put, if_neg fun hsame => ha key (Json.sameKey_text_iff.1 hsame), texts_cons_of_ne ha, ih,
        texts_cons_of_ne ha]

theorem texts_update (c more : Custom) :
    texts (c.update more) = Keyed.update (texts c) (texts more) := by
  induction more generalizing c with
  | nil => rfl
  | cons e r ih =>
    obtain ⟨k, v⟩ := e
    rw [update_cons, ih]
    by_cases hk : ∃ s, k = .text s
    · obtain ⟨s, rfl⟩ := hk
      rw [texts_put_text, texts, Keyed.update_cons]
    · rw [not_exists] at hk
      rw [texts_put_of_ne hk, texts_cons_of_ne hk]

/-- What holds of some key of a list that entries are put into holds of one that was there or of
one that is put, if it holds of keys that are the same alike. -/
theorem exists_mem_put_iff {p : Json → Bool} (hp : ∀ a b : Json, a.sameKey b = true → p a = p b) :
    (∃ e ∈ c.put k v, p e.1 = true) ↔ (∃ e ∈ c, p e.1 = true) ∨ p k = true := by
  induction c with
  | nil => simp [put]
  | cons e r ih =>
    obtain ⟨a, w⟩ := e
    rw [put]
    split
    · rename_i hsame
      simp only [List.mem_cons, or_and_right, exists_or, exists_eq_left]
      rw [← hp a k hsame]
      rw [or_right_comm, or_self]
    · simp only [List.mem_cons, or_and_right, exists_or, exists_eq_left, ih, or_assoc]

theorem exists_mem_update_iff {p : Json → Bool}
    (hp : ∀ a b : Json, a.sameKey b = true → p a = p b) :
    (∃ e ∈ c.update more, p e.1 = true) ↔
      (∃ e ∈ c, p e.1 = true) ∨ ∃ e ∈ more, p e.1 = true := by
  induction more generalizing c with
  | nil => simp [update_nil]
  | cons e r ih =>
    obtain ⟨k, v⟩ := e
    rw [update_cons, ih, exists_mem_put_iff hp, or_assoc]
    simp only [List.mem_cons, or_and_right, exists_or, exists_eq_left]

end Custom

namespace Options
variable {file overrides : Entries} {o o' : Options} {d : Draft} {disk : Disk} {c : Custom}
  {option : String} {v : Json}

/-! Settings from entries with keys of any kind. -/

def properKey : Json → Json
  | .text key => .text (optionName key)
  | key => key

def isOptionKey : Json → Bool
  | .text key => Draft.isOption key
  | _ => false

def layeredAny (c : Custom) : Custom :=
  (Custom.ofEntries defaults).update (.ofList (c.map fun e => (properKey e.1, e.2)))

def draftOfAny (c : Custom) : Except LoadFault Draft :=
  let d := drafted c.texts
  let others : Custom := c.filter fun e => !isOptionKey e.1
  if others.isEmpty then .ok d
  else (customOf d.custom).map fun custom =>
    { d with custom := .entries ((Custom.ofList custom).update others) }

/-- Settings of which nothing is told but entries with keys of any kind. -/
def settleAny (c : Custom) : Except LoadFault Options := do
  let d ← draftOfAny (layeredAny c)
  d.checked

theorem texts_map_properKey (c : Custom) :
    Custom.texts (c.map fun e => (properKey e.1, e.2)) = renamed c.texts := by
  fun_induction Custom.texts c with
  | case1 => rfl
  | case2 key v r ih => exact congrArg ((optionName key, v) :: ·) ih
  | case3 e r hno ih =>
    obtain ⟨k, v⟩ := e
    have hk : ∀ s, properKey k ≠ .text s := by
      intro s heq
      cases k with
      | text key => exact hno key v rfl
      | _ => cases heq
    rw [List.map_cons, Custom.texts_cons_of_ne hk, ih]

theorem texts_layeredAny (c : Custom) : (layeredAny c).texts = layered [] c.texts := by
  have hnamed : Custom.texts (.ofList (c.map fun e => (properKey e.1, e.2))) = named c.texts := by
    rw [Custom.ofList, Custom.texts_update, texts_map_properKey]
    rfl
  rw [layeredAny, Custom.texts_update, Custom.texts_ofEntries, hnamed]
  rfl

theorem layeredAny_ofEntries (es : Entries) :
    layeredAny (.ofEntries es) = .ofEntries (layered [] es) := by
  have hrenamed : (Custom.ofEntries es).map (fun e => (properKey e.1, e.2)) =
      Custom.ofEntries (renamed es) := by
    rw [Custom.ofEntries, Custom.ofEntries, renamed, List.map_map, List.map_map]
    rfl
  have hlist : Custom.ofList (Custom.ofEntries (renamed es)) = Custom.ofEntries (named es) :=
    Custom.update_ofEntries [] (renamed es)
  rw [layeredAny, hrenamed, hlist, Custom.update_ofEntries]
  rfl

theorem draftOfAny_ofEntries (es : Entries) : draftOfAny (.ofEntries es) = draftOf es := by
  have hothers : (Custom.ofEntries es).filter (fun e => !isOptionKey e.1) =
      Custom.ofEntries (others es) := by
    rw [Custom.ofEntries, List.filter_map]
    rfl
  rw [draftOfAny, Custom.texts_ofEntries, hothers, draftOf_eq, custom_drafted]
  simp only [Custom.ofEntries, List.isEmpty_map, List.isEmpty_iff]

/-- With texts for keys these are the settings of the overrides alone. -/
theorem settleAny_ofEntries (es : Entries) : settleAny (.ofEntries es) = settle [] es := by
  rw [settleAny, layeredAny_ofEntries, draftOfAny_ofEntries, settle]

def ForeignKey (c : Custom) : Prop := ∃ e ∈ c, isOptionKey (properKey e.1) = false

theorem isOptionKey_congr {a b : Json} (h : a.sameKey b = true) :
    isOptionKey a = isOptionKey b ∧ isOptionKey (properKey a) = isOptionKey (properKey b) := by
  by_cases ha : ∃ s, a = .text s
  · obtain ⟨s, rfl⟩ := ha
    rw [Json.text_sameKey_iff.1 h]
    exact ⟨rfl, rfl⟩
  · rw [not_exists] at ha
    have hb : ∀ s, b ≠ .text s := by
      rintro s rfl
      exact ha s (Json.sameKey_text_iff.1 h)
    cases a <;> cases b <;> simp_all [isOptionKey, properKey]

theorem foreign_layeredAny_iff :
    (layeredAny c).filter (fun e => !isOptionKey e.1) ≠ [] ↔ ForeignKey c := by
  have hdefaults : ¬ ∃ e ∈ Custom.ofEntries defaults, (!isOptionKey e.1) = true := by decide
  have hnone : ¬ ∃ e ∈ ([] : Custom), (!isOptionKey e.1) = true := by simp
  have hp : ∀ a b : Json, a.sameKey b = true → (!isOptionKey a) = !isOptionKey b :=
    fun a b h => congrArg _ (isOptionKey_congr h).1
  rw [ne_eq, List.filter_eq_nil_iff]
  push Not
  rw [layeredAny, Custom.exists_mem_update_iff hp, or_iff_right hdefaults, Custom.ofList,
    Custom.exists_mem_update_iff hp, or_iff_right hnone]
  simp only [List.mem_map, exists_exists_and_eq_and, Bool.not_eq_true', ForeignKey]

/-! The flat set. -/

def aliased? (option : String) (es : Entries) : Option Json :=
  naming? option (es.filter fun e => e.1 ∉ Draft.optionNames)

/-- What some entries say of an option when they are read behind the options: an alias comes
before the option's own name. -/
def said? (option : String) (es : Entries) : Option Json :=
  (aliased? option es).or (Keyed.get? option es)

theorem keys_optionEntries (d : Draft) : Keyed.keys d.optionEntries = Draft.optionNames := rfl

theorem texts_flat (o : Options) :
    (flat o).texts = Keyed.update (Draft.ofOptions o).optionEntries o.custom.texts := by
  rw [flat, Custom.texts_update, Custom.texts_ofEntries]

/-- Under its own name an option has the value of a custom entry, if there is one. -/
theorem get?_flat (hn : (Keyed.keys o.custom.texts).Nodup) :
    (flat o).get? (.text option) = (o.custom.get? (.text option)).or
      (Keyed.get? option (Draft.ofOptions o).optionEntries) := by
  rw [Custom.get?_text, Custom.get?_text, texts_flat, Keyed.get?_update, Keyed.last?_eq_get? hn]

/-- Entries under the options' own names are found as they are. -/
theorem naming?_of_keys {es : Entries} (h : Keyed.keys es = Draft.optionNames) (option : String) :
    naming? option es = Keyed.get? option es := by
  have hrenamed : renamed es = es := by
    refine (List.map_congr_left fun e he => ?_).trans (List.map_id es)
    have hmem : e.1 ∈ Keyed.keys es := List.mem_map_of_mem he
    rw [h] at hmem
    rw [optionName_of_isOption (isOption_of_mem hmem)]
    rfl
  rw [naming?, hrenamed, Keyed.last?_eq_get? (h ▸ nodup_optionNames)]

theorem naming?_flat (hn : (Keyed.keys o.custom.texts).Nodup) (h : option ∈ Draft.optionNames) :
    naming? option (flat o).texts = (said? option o.custom.texts).or
      (Keyed.get? option (Draft.ofOptions o).optionEntries) := by
  have hown : Keyed.last? option (o.custom.texts.filter fun e => e.1 ∈ Draft.optionNames) =
      Keyed.get? option o.custom.texts := by
    rw [Keyed.last?_filter (fun k => decide (k ∈ Draft.optionNames)) (decide_eq_true h),
      Keyed.last?_eq_get? hn]
  have hkeys : Keyed.keys (Keyed.update (Draft.ofOptions o).optionEntries
      (o.custom.texts.filter fun e => e.1 ∈ Draft.optionNames)) = Draft.optionNames := by
    rw [← keys_optionEntries (Draft.ofOptions o)]
    exact Keyed.keys_update_of_mem fun e he => of_decide_eq_true (List.mem_filter.1 he).2
  rw [texts_flat, Keyed.update_eq_append hn, keys_optionEntries, naming?_append,
    naming?_of_keys hkeys, Keyed.get?_update, hown, said?, aliased?, Option.or_assoc]

/-! Reading a flat set. -/

/-- The custom entries' own entry for the custom entries, if there is one, can be read as one. -/
def Readable (c : Custom) : Prop :=
  ∀ v, naming? "custom" c.texts = some v →
    (∃ cs, v = .object cs) ∨ ForeignKey c ∧ ∃ entries, customOf (.ofJson v) = .ok entries

theorem fieldOf_texts (c : Custom) : fieldOf (layered [] c.texts) =
    ((naming? "custom" c.texts).map CustomField.ofJson).getD (.entries []) := by
  rw [fieldOf_layered_append, List.nil_append]

theorem ofJson_eq_entries_iff : (∃ entries, CustomField.ofJson v = .entries entries) ↔
    ∃ cs, v = .object cs := by
  constructor
  · rintro ⟨entries, h⟩
    cases v with
    | object cs => exact ⟨cs, rfl⟩
    | _ => cases h
  · rintro ⟨cs, rfl⟩
    exact ⟨_, rfl⟩

/-- Beside a key that is no option the entry may be all that can be read as pairs. -/
theorem readable_iff_of_foreign (h : ForeignKey c) :
    Readable c ↔ ∃ entries, customOf (fieldOf (layered [] c.texts)) = .ok entries := by
  rw [fieldOf_texts, Readable]
  cases naming? "custom" c.texts with
  | none => exact ⟨fun _ => ⟨[], customOf_entries []⟩, fun _ _ hv => nomatch hv⟩
  | some v =>
    constructor
    · intro hread
      rcases hread v rfl with ⟨cs, rfl⟩ | ⟨-, hentries⟩
      · exact ⟨_, customOf_entries _⟩
      · exact hentries
    · rintro hentries _ ⟨⟩
      exact .inr ⟨h, hentries⟩

/-- Without one it is left as it is, and has to be an object. -/
theorem readable_iff_of_not_foreign (h : ¬ ForeignKey c) :
    Readable c ↔ ∃ entries, fieldOf (layered [] c.texts) = .entries entries := by
  rw [fieldOf_texts, Readable]
  cases naming? "custom" c.texts with
  | none => exact ⟨fun _ => ⟨[], rfl⟩, fun _ _ hv => nomatch hv⟩
  | some v =>
    refine Iff.trans ?_ ofJson_eq_entries_iff.symm
    constructor
    · intro hread
      exact (hread v rfl).resolve_right fun hother => h hother.1
    · rintro hobject _ ⟨⟩
      exact .inl hobject

/-- The draft of some entries is that of their texts, with some custom entries if it can be
read. -/
theorem draftOfAny_layeredAny (c : Custom) : draftOfAny (layeredAny c) =
    if (layeredAny c).filter (fun e => !isOptionKey e.1) = [] then
      .ok (drafted (layered [] c.texts))
    else (customOf (fieldOf (layered [] c.texts))).map fun custom =>
      { drafted (layered [] c.texts) with custom := .entries ((Custom.ofList custom).update
        ((layeredAny c).filter fun e => !isOptionKey e.1)) } := by
  rw [draftOfAny, texts_layeredAny, custom_drafted]
  simp only [List.isEmpty_iff]

theorem optionEntries_of_draftOfAny (h : draftOfAny (layeredAny c) = .ok d) :
    d.optionEntries = (drafted (layered [] c.texts)).optionEntries := by
  rw [draftOfAny_layeredAny] at h
  split at h
  · cases h
    rfl
  · obtain ⟨custom, -, rfl⟩ := map_eq_ok.1 h
    rfl

theorem readable_iff : Readable c ↔ ∃ entries, draftOfAny (layeredAny c) =
    .ok { drafted (layered [] c.texts) with custom := .entries entries } := by
  rw [draftOfAny_layeredAny]
  by_cases hforeign : ForeignKey c
  · rw [readable_iff_of_foreign hforeign, if_neg (foreign_layeredAny_iff.2 hforeign)]
    constructor
    · rintro ⟨custom, hcustom⟩
      exact ⟨_, by rw [hcustom]; rfl⟩
    · rintro ⟨entries, h⟩
      obtain ⟨custom, hcustom, -⟩ := map_eq_ok.1 h
      exact ⟨custom, hcustom⟩
  · have hothers := not_not.1 (mt foreign_layeredAny_iff.1 hforeign)
    rw [readable_iff_of_not_foreign hforeign, if_pos hothers, ← custom_drafted]
    constructor
    · rintro ⟨entries, h⟩
      exact ⟨entries, by rw [← h]⟩
    · rintro ⟨entries, h⟩
      exact ⟨entries, by rw [Except.ok.inj h]⟩

theorem settleAny_eq_ok : settleAny c = .ok o ↔
    draftOfAny (layeredAny c) = .ok (Draft.ofOptions o) := by
  unfold settleAny
  simp only [bind_eq_ok, checked_eq_ok]
  constructor
  · rintro ⟨d, hd, rfl⟩
    exact hd
  · exact fun h => ⟨_, h, rfl⟩

/-- A draft with the options of a record is that record, with its own custom entries. -/
theorem eq_ofOptions (h : d.optionEntries = (Draft.ofOptions o).optionEntries) (c : Custom) :
    { d with custom := .entries c } = Draft.ofOptions { o with custom := c } := by
  obtain ⟨useTabs, indentSpaces, namePrefix, docString, baseClass, fileExtension, initFileName,
    templateDir, custom⟩ := d
  cases h
  rfl

theorem optionEntries_drafted_eq_iff :
    (drafted (layered [] c.texts)).optionEntries = (Draft.ofOptions o).optionEntries ↔
      ∀ option ∈ Draft.optionNames, (naming? option c.texts).or (Keyed.get? option defaults) =
        Keyed.get? option (Draft.ofOptions o).optionEntries := by
  constructor
  · intro h option hoption
    rw [← h, get?_drafted_layered hoption, List.nil_append]
  · intro h
    refine Keyed.eq_of_get? rfl nodup_optionNames fun option hoption => ?_
    rw [get?_drafted_layered hoption, List.nil_append, h option hoption]

/-- Entries of any keys settle to a record's options if they name these and can be read. -/
theorem settleAny_keeps_iff :
    (∃ o', settleAny c = .ok o' ∧
      (Draft.ofOptions o').optionEntries = (Draft.ofOptions o).optionEntries) ↔
    (∀ option ∈ Draft.optionNames, (naming? option c.texts).or (Keyed.get? option defaults) =
      Keyed.get? option (Draft.ofOptions o).optionEntries) ∧ Readable c := by
  simp only [settleAny_eq_ok]
  rw [← optionEntries_drafted_eq_iff, readable_iff]
  constructor
  · rintro ⟨o', hdraft, hsame⟩
    have hoptions := optionEntries_of_draftOfAny hdraft
    refine ⟨hoptions.symm.trans hsame, o'.custom, hdraft.trans ?_⟩
    rw [eq_ofOptions hoptions.symm]
  · rintro ⟨hsame, entries, hdraft⟩
    exact ⟨_, hdraft.trans (congrArg _ (eq_ofOptions hsame entries)), rfl⟩

/-! The flat set of a loaded record. -/

theorem foreignKey_flat_iff : ForeignKey (flat o) ↔ ForeignKey o.custom := by
  have hp : ∀ a b : Json, a.sameKey b = true →
      (!isOptionKey (properKey a)) = !isOptionKey (properKey b) :=
    fun a b h => congrArg _ (isOptionKey_congr h).2
  have hnone : ¬ ∃ e ∈ Custom.ofEntries (Draft.ofOptions o).optionEntries,
      (!isOptionKey (properKey e.1)) = true := by
    rintro ⟨e, he, hnot⟩
    obtain ⟨entry, hentry, rfl⟩ := List.mem_map.1 he
    have hmem : entry.1 ∈ Draft.optionNames := List.mem_map_of_mem (f := (·.1)) hentry
    have hoption := isOption_of_mem hmem
    rw [properKey, optionName_of_isOption hoption, isOptionKey, hoption] at hnot
    cases hnot
  have hiff : (∃ e ∈ flat o, (!isOptionKey (properKey e.1)) = true) ↔ _ :=
    Custom.exists_mem_update_iff hp
  rw [or_iff_right hnone] at hiff
  simpa only [ForeignKey, Bool.not_eq_true'] using hiff

theorem readable_flat_iff : Readable (flat o) ↔ Readable o.custom := by
  have hown : Keyed.get? "custom" (Draft.ofOptions o).optionEntries = none :=
    Keyed.get?_eq_none_iff.2 (by rw [keys_optionEntries]; decide)
  have hkeys : (Keyed.keys (Draft.ofOptions o).optionEntries).Nodup := nodup_optionNames
  have hcustom : naming? "custom" (flat o).texts = naming? "custom" o.custom.texts := by
    rw [naming?_custom, naming?_custom, texts_flat,
      Keyed.last?_eq_get? (Keyed.nodup_keys_update _ hkeys), Keyed.get?_update, hown,
      Option.or_none]
  rw [Readable, Readable, hcustom, foreignKey_flat_iff]

/-- The texts among the keys of custom entries that were settled differ. -/
theorem nodup_texts_custom (hfile : (Json.object file).all Json.keysOnce = true)
    (hkeys : (Json.object overrides).all Json.keysOnce = true)
    (h : settle file overrides = .ok o) : (Keyed.keys o.custom.texts).Nodup := by
  obtain ⟨-, ⟨-, hfield⟩ | ⟨-, c, -, hfield⟩⟩ := of_draftOf (settle_eq_ok.1 h)
  · change CustomField.entries o.custom = _ at hfield
    have hn := nodup_ownEntries hfile hkeys
    rw [fieldOf_layered_append] at hfield
    rw [ownEntries] at hn
    cases hv : naming? "custom" (file ++ overrides) with
    | none =>
      rw [hv] at hfield
      rw [show o.custom = [] from CustomField.entries.inj hfield]
      exact List.nodup_nil
    | some v =>
      rw [hv] at hfield hn
      obtain ⟨cs, rfl⟩ := ofJson_eq_entries_iff.1 ⟨o.custom, hfield.symm⟩
      rw [show o.custom = .ofEntries cs from CustomField.entries.inj hfield,
        Custom.texts_ofEntries]
      exact hn
  · rw [show o.custom = _ from CustomField.entries.inj hfield, Custom.ofList, Custom.texts_update,
      Custom.texts_update]
    exact Keyed.nodup_keys_update _ (Keyed.nodup_keys_update _ List.nodup_nil)

theorem exists_settle_of_load {path : Option String} (h : load disk overrides path = .ok o) :
    ∃ file, (Json.object file).all Json.keysOnce = true ∧ settle file overrides = .ok o := by
  unfold load at h
  split at h
  · exact ⟨[], by decide, h⟩
  · exact ⟨[], by decide, h⟩
  · obtain ⟨file, hfile, hsettle⟩ := bind_eq_ok.1 h
    exact ⟨file, (of_ofFound Json.Reader.reads_keysOnce hfile).2, hsettle⟩

/-- What comes first changes nothing if it says the same. -/
theorem or_own_eq_iff {α : Type} {first : Option α} {x : α} :
    first.or (some x) = some x ↔ ∀ y, first = some y → some x = some y := by
  cases first with
  | none => simp
  | some y => simp [eq_comm]

theorem exists_option (o : Options) (h : option ∈ Draft.optionNames) :
    ∃ v, Keyed.get? option (Draft.ofOptions o).optionEntries = some v := by
  rw [← Option.ne_none_iff_exists', ne_eq, Keyed.get?_eq_none_iff, not_not, keys_optionEntries]
  exact h

/-- Custom entries come before the options. In the flat set of a loaded record an option has the
value of a custom entry under its own name, if there is one, so the set has the options' values
just if no custom entry gives one of them another. Read again, it gives them their values just
if this holds of aliases too and what the custom entries name as custom entries can be read.
With texts for keys the set is read again as overrides are. -/
theorem flat_keeps_options_iff {path : Option String}
    (hkeys : (Json.object overrides).all Json.keysOnce = true)
    (hload : load disk overrides path = .ok o) :
    (∀ option ∈ Draft.optionNames, (flat o).get? (.text option) =
      (o.custom.get? (.text option)).or (Keyed.get? option (Draft.ofOptions o).optionEntries)) ∧
    ((∀ option ∈ Draft.optionNames, (flat o).get? (.text option) =
        Keyed.get? option (Draft.ofOptions o).optionEntries) ↔
      ∀ option ∈ Draft.optionNames, ∀ v, o.custom.get? (.text option) = some v →
        Keyed.get? option (Draft.ofOptions o).optionEntries = some v) ∧
    ((∃ o', settleAny (flat o) = .ok o' ∧
        (Draft.ofOptions o').optionEntries = (Draft.ofOptions o).optionEntries) ↔
      (∀ option ∈ Draft.optionNames, ∀ v, said? option o.custom.texts = some v →
        Keyed.get? option (Draft.ofOptions o).optionEntries = some v) ∧ Readable o.custom) ∧
    ∀ es, flat o = .ofEntries es → settleAny (flat o) = load disk es none := by
  obtain ⟨file, hfile, hsettle⟩ := exists_settle_of_load hload
  have hn := nodup_texts_custom hfile hkeys hsettle
  refine ⟨fun option _ => get?_flat hn, forall₂_congr fun option hoption => ?_, ?_, ?_⟩
  · obtain ⟨own, hown⟩ := exists_option o hoption
    rw [get?_flat hn, hown]
    exact or_own_eq_iff
  · rw [settleAny_keeps_iff, readable_flat_iff]
    refine and_congr_left fun _ => forall₂_congr fun option hoption => ?_
    obtain ⟨own, hown⟩ := exists_option o hoption
    rw [naming?_flat hn hoption, hown, Option.or_assoc, Option.some_or]
    exact or_own_eq_iff
  · intro es hflat
    rw [hflat, settleAny_ofEntries]
    rfl

def agreeingOverrides : Entries :=
  [("prefix", .text "LC"), ("custom", .object [("prefix", .text "LC"), ("k", .int 1)])]

def agreeingOptions : Options where
  namePrefix := "LC"
  custom := [(.text "prefix", .text "LC"), (.text "k", .int 1)]

theorem said_agreeing : ∀ option ∈ Draft.optionNames, option ≠ "name_prefix" →
    said? option agreeingOptions.custom.texts = none := by
  simp only [← Option.isNone_iff_eq_none]
  decide

theorem flat_keeps_options_iff_house : ∃ o, load houseDisk agreeingOverrides none = .ok o ∧
    o.namePrefix = "LC" ∧ ∃ o', settleAny (flat o) = .ok o' ∧
      (Draft.ofOptions o').optionEntries = (Draft.ofOptions o).optionEntries := by
  have hload : load houseDisk agreeingOverrides none = .ok agreeingOptions := rfl
  obtain ⟨-, -, hagain, -⟩ := flat_keeps_options_iff (by decide) hload
  refine ⟨_, hload, rfl, hagain.2 ⟨fun option hoption v hv => ?_, ?_⟩⟩
  · by_cases hname : option = "name_prefix"
    · cases hname
      exact hv
    · rw [said_agreeing option hoption hname] at hv
      cases hv
  · rintro v ⟨⟩

/-- A custom entry under an option's own name stands in its place in the flat set, and one under
an alias takes its place when the set is read again. -/
theorem custom_entry_shadows_option :
    (∃ o es o', load houseDisk [("custom", .object [("use_tabs", .bool true)])] none = .ok o ∧
      o.useTabs = false ∧ (flat o).get? (.text "use_tabs") = some (.bool true) ∧
      flat o = .ofEntries es ∧ load houseDisk es none = .ok o' ∧ o'.useTabs = true) ∧
    ∃ o es o', load houseDisk [("custom", .object [("prefix", .text "LC")])] none = .ok o ∧
      o.namePrefix = "" ∧ flat o = .ofEntries es ∧ load houseDisk es none = .ok o' ∧
      o'.namePrefix = "LC" :=
  ⟨⟨{ custom := [(.text "use_tabs", .bool true)] },
      Keyed.update defaults [("use_tabs", .bool true)], { useTabs := true }, rfl, rfl, rfl, rfl, rfl,
      rfl⟩,
    ⟨{ custom := [(.text "prefix", .text "LC")] }, Keyed.update defaults [("prefix", .text "LC")],
      { namePrefix := "LC" }, rfl, rfl, rfl, rfl, rfl⟩⟩

end Options
end UmlPress
