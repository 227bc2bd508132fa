import UmlPress.Options.File
import UmlPress.Proofs.Keys
import UmlPress.Proofs.Proper
import UmlPress.Proofs.Settling

/-!
# Which layer speaks

An option has the value that the overrides give it last, by whatever name, else the one that
the file gives it last, else its default. The custom entries are a list within the list, and
of those the layers only see one: the overrides' own one takes the place of the file's.
The keys that stand beside it are laid over it, from whichever layer they come.
-/
namespace UmlPress.Options
variable {es file overrides : Entries} {name key : String} {o : Options} {disk : Disk} {v : Json}
  {c : Custom} {d : Draft}

/-! Texts as keys of custom entries. -/

theorem get?_put_text (k : String) (v : Json) (c : Custom) : (c.put (.text k) v).get? (.text key) =
    if k = key then some v else c.get? (.text key) := by
  induction c with
  | nil => simp [Custom.put, Custom.get?, Json.sameKey_text_iff]
  | cons e r ih =>
    obtain ⟨a, w⟩ := e
    by_cases hk : a = .text k
    · subst hk
      by_cases h : k = key
      · simp [Custom.put, Custom.get?, Json.sameKey_text_iff, h]
      · simp [Custom.put, Custom.get?, Json.sameKey_text_iff, h]
    · by_cases ha : a = .text key
      · subst ha
        have hne : k ≠ key := fun heq => hk (by rw [heq])
        simp [Custom.put, Custom.get?, Json.sameKey_text_iff, hne, Ne.symm hne]
      · simp [Custom.put, Custom.get?, Json.sameKey_text_iff, hk, ha, ih]

theorem get?_update_ofEntries (c : Custom) (es : Entries) :
    (c.update (.ofEntries es)).get? (.text key) =
      (Keyed.last? key es).or (c.get? (.text key)) := by
  induction es generalizing c with
  | nil => rfl
  | cons e r ih =>
    obtain ⟨k, v⟩ := e
    rw [Keyed.last?_cons, Option.or_assoc]
    refine (ih (c.put (.text k) v)).trans ?_
    rw [get?_put_text]
    split <;> rfl

theorem get?_ofEntries (es : Entries) :
    (Custom.ofEntries es).get? (.text key) = Keyed.get? key es := by
  induction es with
  | nil => rfl
  | cons e r ih =>
    change (if _ then _ else Custom.get? _ (Custom.ofEntries r)) = if _ then _ else _
    rw [ih]
    simp only [Json.sameKey_text_iff, Json.text.injEq]

theorem ofList_ofEntries (hn : (Keyed.keys es).Nodup) :
    Custom.ofList (Custom.ofEntries es) = Custom.ofEntries es := by
  have h := Custom.update_ofEntries [] es
  rwa [show Keyed.update [] es = es from Keyed.ofList_of_nodup hn] at h

/-! What layers give. -/

def held? (key : String) (field : CustomField) : Option Json :=
  match customOf field with
  | .ok c => (Custom.ofList c).get? (.text key)
  | .error _ => none

def inside? (key : String) (es : Entries) : Option Json :=
  (Keyed.get? "custom" es).bind fun v => held? key (.ofJson v)

/-- What some entries give a key, beside their custom entries or among them. -/
def given? (key : String) (es : Entries) : Option Json :=
  (Keyed.get? key es).or (inside? key es)

theorem customOf_entries (c : Custom) : customOf (.entries c) = .ok c := by
  unfold customOf
  split
  · rfl
  · rename_i h
    have hnil : c = [] := by simpa [CustomField.truthy] using h
    rw [hnil]

theorem held?_entries (hn : (Keyed.keys es).Nodup) :
    held? key (.entries (.ofEntries es)) = Keyed.get? key es := by
  rw [held?, customOf_entries]
  dsimp only
  rw [ofList_ofEntries hn, get?_ofEntries]

/-- A key's value within an object of custom entries is the object's. -/
theorem held?_object (hn : (Keyed.keys es).Nodup) :
    held? key (.ofJson (.object es)) = Keyed.get? key es := held?_entries hn

/-! The layers' list. -/

theorem optionName_eq_or (name : String) :
    optionName name = name ∨ optionName name ∈ Draft.optionNames := by
  have htargets : ∀ e ∈ aliases, e.2 ∈ Draft.optionNames := by decide
  unfold optionName
  cases h : Keyed.get? name aliases with
  | none => exact .inl rfl
  | some target => exact .inr (htargets _ (Keyed.mem_of_get? h))

/-- No alias leads to a name that is none of the eight. -/
theorem naming?_eq_last? (hname : optionName key = key) (h : key ∉ Draft.optionNames)
    (es : Entries) : naming? key es = Keyed.last? key es := by
  have hiff : ∀ name, optionName name = key ↔ name = key := by
    intro name
    constructor
    · rintro rfl
      exact ((optionName_eq_or name).resolve_right h).symm
    · rintro rfl
      exact hname
  unfold naming? renamed
  induction es with
  | nil => rfl
  | cons e r ih =>
    obtain ⟨k, v⟩ := e
    rw [List.map_cons, Keyed.last?_cons, Keyed.last?_cons, ih]
    simp only [hiff]

theorem naming?_custom (es : Entries) : naming? "custom" es = Keyed.last? "custom" es :=
  naming?_eq_last? (by decide) (by decide) es

theorem not_isOption (h : Draft.isOption (optionName key) = false) :
    optionName key = key ∧ Draft.isOption key = false := by
  rcases optionName_eq_or key with heq | hmem
  · exact ⟨heq, heq ▸ h⟩
  · rw [Draft.isOption, Bool.or_eq_false_iff, decide_eq_false_iff_not] at h
    exact absurd hmem h.1

theorem naming?_eq_get? (h : Draft.isOption (optionName key) = false)
    (hn : (Keyed.keys es).Nodup) : naming? key es = Keyed.get? key es := by
  obtain ⟨heq, hkey⟩ := not_isOption h
  rw [Draft.isOption, Bool.or_eq_false_iff, decide_eq_false_iff_not] at hkey
  rw [naming?_eq_last? heq hkey.1, Keyed.last?_eq_get? hn]

theorem last?_others (h : Draft.isOption key = false) (es : Entries) :
    Keyed.last? key (others es) = Keyed.last? key es :=
  Keyed.last?_filter (fun k => !Draft.isOption k) (by rw [h]; rfl) es

/-- What stands beside the custom entries comes before what stands among them. -/
theorem get?_custom (hn : (Keyed.keys es).Nodup) (h : Draft.isOption key = false)
    (hcustom : ∀ v, Keyed.get? "custom" es = some v → v.all Json.keysOnce = true)
    (hd : draftOf es = .ok (Draft.ofOptions o)) :
    o.custom.get? (.text key) = (Keyed.get? key es).or (held? key (fieldOf es)) := by
  have hlast := last?_others h es
  rw [Keyed.last?_eq_get? hn] at hlast
  obtain ⟨-, ⟨hothers, hfield⟩ | ⟨-, c, hc, hfield⟩⟩ := of_draftOf hd
  · rw [hothers] at hlast
    rw [← hlast]
    change _ = held? key (fieldOf es)
    unfold fieldOf at hfield ⊢
    rw [Keyed.last?_eq_get? hn] at hfield ⊢
    cases hv : Keyed.get? "custom" es with
    | none =>
      rw [hv] at hfield
      rw [show o.custom = [] from CustomField.entries.inj hfield]
      rfl
    | some v =>
      rw [hv] at hfield
      change CustomField.entries o.custom = .ofJson v at hfield
      -- Only an object passes the check.
      cases v with
      | object cs =>
        rw [show o.custom = .ofEntries cs from CustomField.entries.inj hfield, get?_ofEntries]
        exact (held?_object (Json.nodup_of_all_keysOnce (hcustom _ hv))).symm
      | null | bool _ | int _ | real _ | text _ | list _ => cases hfield
  · have hcustom : o.custom = (Custom.ofList c).update (.ofEntries (others es)) :=
      CustomField.entries.inj hfield
    rw [hcustom, get?_update_ofEntries, hlast, held?, hc]

/-- What is found under an option in the draft of entries whose names differ. -/
theorem get?_drafted (hn : (Keyed.keys es).Nodup) (h : name ∈ Draft.optionNames) :
    Keyed.get? name (drafted es).optionEntries =
      (Keyed.get? name es).or (Keyed.get? name defaults) := by
  have hfilter : Keyed.last? name (es.filter fun e => e.1 ∈ Draft.optionNames) =
      Keyed.last? name es :=
    Keyed.last?_filter (fun k => decide (k ∈ Draft.optionNames)) (decide_eq_true h) es
  rw [optionEntries_drafted, Keyed.get?_update, hfilter, Keyed.last?_eq_get? hn]

theorem get?_optionEntries (hn : (Keyed.keys es).Nodup) (h : name ∈ Draft.optionNames)
    (hd : draftOf es = .ok d) : Keyed.get? name d.optionEntries =
      (Keyed.get? name es).or (Keyed.get? name defaults) := by
  rw [(of_draftOf hd).1, ← optionEntries_drafted, get?_drafted hn h]

/-! Files. -/

theorem isJsonName_empty : isJsonName (.ofString "") = false := by decide

theorem of_ofFound {p : Json → Bool} (hp : Json.Reader.Reads p) {path : Path}
    {found : Except Disk.Refusal Item} (h : ofFound path found = .ok file) :
    isJsonName path = true ∧ (Json.object file).all p = true := by
  unfold ofFound at h
  split at h
  · cases h
  · split at h
    · cases h
    · rename_i hname
      refine ⟨by simpa using hname, ?_⟩
      split at h
      · cases h
      · split at h
        · cases h
        · unfold ofText at h
          split at h
          · cases h
          · rename_i es hparse
            cases h
            exact hp.all_of_parse hparse
          · cases h

/-- A file is looked for under any name but the empty one. -/
theorem load_some (h : name ≠ "") : load disk overrides (some name) =
    (ofFound (.ofString name) (disk.status (.ofString name)) >>= (settle · overrides)) := by
  unfold load
  split
  · contradiction
  · rename_i heq
    exact absurd (Option.some.inj heq) h
  · rename_i heq
    cases heq
    rfl

theorem load_of_found
    (h : ofFound (.ofString name) (disk.status (.ofString name)) = .ok file) :
    load disk overrides (some name) = settle file overrides := by
  have hname : name ≠ "" := by
    rintro rfl
    have hjson := (of_ofFound Json.Reader.reads_keysOnce h).1
    rw [isJsonName_empty] at hjson
    cases hjson
  rw [load_some hname, h]
  rfl

/-! The settings in effect. -/

/-- The overrides give a key only among their custom entries, and the file gives it another
value beside its own. -/
def Overruled (key : String) (file overrides : Entries) : Prop :=
  Keyed.get? key overrides = none ∧
    ∃ v w, inside? key overrides = some v ∧ Keyed.get? key file = some w ∧ w ≠ v

/-- The overrides have custom entries but do not give a key, and the file gives it only among
its own. -/
def Dropped (key : String) (file overrides : Entries) : Prop :=
  given? key overrides = none ∧ Keyed.get? "custom" overrides ≠ none ∧
    Keyed.get? key file = none ∧ inside? key file ≠ none

theorem held?_layered (hfile : (Keyed.keys file).Nodup) (hover : (Keyed.keys overrides).Nodup) :
    held? key (fieldOf (layered file overrides)) =
      if Keyed.get? "custom" overrides = none then inside? key file
      else inside? key overrides := by
  have hfile' := (naming?_custom file).trans (Keyed.last?_eq_get? hfile _)
  have hover' := (naming?_custom overrides).trans (Keyed.last?_eq_get? hover _)
  have hlast : Keyed.last? "custom" (layered file overrides) =
      (Keyed.get? "custom" overrides).or (Keyed.get? "custom" file) := by
    rw [Keyed.last?_eq_get? (nodup_layered _ _), get?_layered, hfile', hover']
    exact congrArg _ Option.or_none
  unfold fieldOf
  rw [hlast, inside?, inside?]
  cases Keyed.get? "custom" overrides with
  | some v => rfl
  | none =>
    rw [if_pos rfl, Option.none_or]
    cases Keyed.get? "custom" file with
    | some v => rfl
    | none => rfl

/-- What the layers see of a key: what stands beside the custom entries, the overrides' before
the file's, and then what stands in the one list of custom entries that is left. -/
def seen? (key : String) (file overrides : Entries) : Option Json :=
  (Keyed.get? key overrides).or ((Keyed.get? key file).or
    (if Keyed.get? "custom" overrides = none then inside? key file else inside? key overrides))

theorem inside?_of_get?_custom (h : Keyed.get? "custom" es = none) : inside? key es = none := by
  rw [inside?, h]
  rfl

theorem seen?_of_overruled (h : Overruled key file overrides) :
    seen? key file overrides = Keyed.get? key file := by
  obtain ⟨hnone, v, w, -, hw, -⟩ := h
  rw [seen?, hnone, hw]
  rfl

theorem seen?_of_dropped (h : Dropped key file overrides) : seen? key file overrides = none := by
  obtain ⟨hgiven, hsome, hnone, -⟩ := h
  obtain ⟨hbeside, hamong⟩ := Option.or_eq_none_iff.1 hgiven
  rw [seen?, hbeside, hnone, if_neg hsome, hamong]
  rfl

/-- With a list of custom entries in the overrides the file's own list is not seen, which makes
a difference only where the key is overruled or dropped. -/
theorem seen?_of_custom (hover : ¬Overruled key file overrides) (hdrop : ¬Dropped key file overrides)
    (hbeside : Keyed.get? key overrides = none) (hsome : Keyed.get? "custom" overrides ≠ none) :
    (Keyed.get? key file).or (inside? key overrides) =
      (inside? key overrides).or ((Keyed.get? key file).or (inside? key file)) := by
  cases hamong : inside? key overrides with
  | some v =>
    cases hfirst : Keyed.get? key file with
    | none => rfl
    | some w =>
      have heq : w = v := by
        by_contra hne
        exact hover ⟨hbeside, v, w, hamong, hfirst, hne⟩
      rw [heq]
      rfl
  | none =>
    cases hfirst : Keyed.get? key file with
    | some w => rfl
    | none =>
      have hgiven : given? key overrides = none := Option.or_eq_none_iff.2 ⟨hbeside, hamong⟩
      have hlast : inside? key file = none := by
        by_contra hne
        exact hdrop ⟨hgiven, hsome, hfirst, hne⟩
      rw [hlast]
      rfl

theorem seen?_eq_given? (hover : ¬Overruled key file overrides)
    (hdrop : ¬Dropped key file overrides) :
    seen? key file overrides = (given? key overrides).or (given? key file) := by
  rw [seen?, given?, given?]
  cases hbeside : Keyed.get? key overrides with
  | some v => rfl
  | none =>
    rw [Option.none_or, Option.none_or]
    by_cases hcustom : Keyed.get? "custom" overrides = none
    · rw [if_pos hcustom, inside?_of_get?_custom hcustom, Option.none_or]
    · rw [if_neg hcustom]
      exact seen?_of_custom hover hdrop hbeside hcustom

/-- The custom entries that the layers come to give a key what the layers see of it. -/
theorem get?_custom_of_settle (hfile : (Json.object file).all Json.keysOnce = true)
    (hover : (Json.object overrides).all Json.keysOnce = true)
    (hkey : Draft.isOption (optionName key) = false) (h : settle file overrides = .ok o) :
    o.custom.get? (.text key) = seen? key file overrides := by
  have hfileKeys := Json.nodup_of_all_keysOnce hfile
  have hoverKeys := Json.nodup_of_all_keysOnce hover
  have hcustom : ∀ v, Keyed.get? "custom" (layered file overrides) = some v →
      v.all Json.keysOnce = true := fun v hv =>
    forall_mem_layered (P := fun v => v.all Json.keysOnce = true) (by decide)
      (Json.all_object.1 hfile).2 (Json.all_object.1 hover).2 _ (Keyed.mem_of_get? hv)
  have hdefault : Keyed.get? key defaults = none := by
    have hno := (not_isOption hkey).2
    rw [Draft.isOption, Bool.or_eq_false_iff, decide_eq_false_iff_not] at hno
    exact Keyed.get?_eq_none_iff.2 hno.1
  rw [get?_custom (nodup_layered file overrides) (not_isOption hkey).2 hcustom (settle_eq_ok.1 h),
    held?_layered hfileKeys hoverKeys, get?_layered, hdefault, Option.or_none, Option.or_assoc,
    naming?_eq_get? hkey hfileKeys, naming?_eq_get? hkey hoverKeys, seen?]

/-- Every option has the value that it is given last, the overrides' before the file's and the
file's before the default. So has every other key, unless one of the two things befalls it that
come of the layers seeing only one list of custom entries. -/
theorem effective_settings
    (hfile : ofFound (.ofString name) (disk.status (.ofString name)) = .ok file)
    (hkeys : (Json.object overrides).all Json.keysOnce = true)
    (hload : load disk overrides (some name) = .ok o) :
    (∀ option ∈ Draft.optionNames, Keyed.get? option (Draft.ofOptions o).optionEntries =
      (naming? option overrides).or ((naming? option file).or (Keyed.get? option defaults))) ∧
    ∀ key, Draft.isOption (optionName key) = false →
      (Overruled key file overrides → o.custom.get? (.text key) = Keyed.get? key file) ∧
      (Dropped key file overrides → o.custom.get? (.text key) = none) ∧
      (¬Overruled key file overrides → ¬Dropped key file overrides →
        o.custom.get? (.text key) = (given? key overrides).or (given? key file)) := by
  have honce := (of_ofFound Json.Reader.reads_keysOnce hfile).2
  rw [load_of_found hfile] at hload
  refine ⟨fun option hoption => ?_, fun key hkey => ?_⟩
  · rw [get?_optionEntries (nodup_layered file overrides) hoption (settle_eq_ok.1 hload),
      get?_layered, Option.or_assoc, Option.or_assoc, Option.or_self]
  · rw [get?_custom_of_settle honce hkeys hkey hload]
    exact ⟨seen?_of_overruled, seen?_of_dropped, seen?_eq_given?⟩

def onlyNumber? : Entries → Option (String × Int)
  | [(key, .int n)] => some (key, n)
  | _ => none

theorem eq_of_onlyNumber? {n : Int} (h : onlyNumber? es = some (key, n)) :
    es = [(key, .int n)] := by
  unfold onlyNumber? at h
  split at h <;> cases h
  rfl

def houseDisk : Disk where
  entries := [(["house.json"], .file (.text "\x7b\"k\": 1\x7d"))]

def houseOverrides : Entries := [("prefix", .text "LC"), ("custom", .object [("k", .int 2)])]

theorem ofFound_house : ofFound (.ofString "house.json") (houseDisk.status (.ofString "house.json")) =
    .ok [("k", .int 1)] := by
  have hstatus : houseDisk.status (.ofString "house.json") =
      .ok (.file (.text "\x7b\"k\": 1\x7d")) := by
    unfold Disk.status Disk.resolve
    rw [String.contains_char_eq, if_neg (by decide +kernel), if_neg (by decide +kernel)]
    rfl
  have htold : (ofFound (.ofString "house.json")
      (.ok (.file (.text "\x7b\"k\": 1\x7d")))).toOption.bind onlyNumber? = some ("k", 1) := by
    decide +kernel
  rw [hstatus]
  cases hfound : ofFound (.ofString "house.json") (.ok (.file (.text "\x7b\"k\": 1\x7d"))) with
  | error f =>
    rw [hfound] at htold
    cases htold
  | ok es =>
    rw [hfound] at htold
    rw [eq_of_onlyNumber? htold]

theorem overruled_house : Overruled "k" [("k", .int 1)] houseOverrides :=
  ⟨rfl, .int 2, .int 1, rfl, rfl, by simp⟩

theorem effective_settings_house : ∃ o, load houseDisk houseOverrides (some "house.json") = .ok o ∧
    o.namePrefix = "LC" ∧ o.custom.get? (.text "k") = some (.int 1) := by
  have hload : load houseDisk houseOverrides (some "house.json") =
      .ok { namePrefix := "LC", custom := [(.text "k", .int 1)] } := by
    rw [load_of_found ofFound_house]
    rfl
  have hsettings := effective_settings ofFound_house (by decide) hload
  exact ⟨_, hload, Json.text.inj (Option.some.inj (hsettings.1 "name_prefix" (by decide))),
    (hsettings.2 "k" (by decide)).1 overruled_house⟩

/-- The overrides give the key a value and the file gives it another one; the file's stays. -/
theorem overriding_entry_overruled : ∃ o,
    load houseDisk houseOverrides (some "house.json") = .ok o ∧
    given? "k" houseOverrides = some (.int 2) ∧
    o.custom.get? (.text "k") = some (.int 1) := by
  refine ⟨{ namePrefix := "LC", custom := [(.text "k", .int 1)] }, ?_, rfl, rfl⟩
  rw [load_of_found ofFound_house]
  rfl

end UmlPress.Options
