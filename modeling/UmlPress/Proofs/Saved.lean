import UmlPress.Proofs.Fresh
import UmlPress.Proofs.Parts
import UmlPress.Proofs.Precedence
import UmlPress.Proofs.ReadBack

/-!
# Saved settings

The layers of settings come to one list of entries, and the flat set of the settings that the
list describes is the list again. So a file of that set is a layer that says it all: read on
its own it gives the settings back, and the file that they are written to is the same file.

Settings that are accepted need not be such that a file can hold them. A half of a character or
a number of too many digits ends saving, and what was written before it is left in the file.
-/
namespace UmlPress

namespace Disk
variable {d d' : Disk} {p : Path} {names : List String} {content : String}

/-- A file is filled where the path leads and no directory is. -/
theorem exists_of_fill (h : d.fill p content = .ok d') : ∃ names,
    d.resolve p = .ok names ∧ d.get? names ≠ some .directory := by
  cases hr : d.resolve p with
  | error r => simp [fill, hr, bind, Except.bind] at h
  | ok names =>
    refine ⟨names, rfl, fun hg => ?_⟩
    rw [fill_of_directory hr hg] at h
    cases h

theorem set_set (d : Disk) (names : List String) (item item' : Item) :
    (d.set names item).set names item' = d.set names item' := by
  unfold set
  rw [Keyed.put_put]

/-- What has been put stands where the path still leads. -/
theorem resolve_set (hr : d.resolve p = .ok names) (hg : d.get? names ≠ some .directory)
    (item : Item) : (d.set names item).resolve p = .ok names ∧
      (d.set names item).get? names = some item := by
  have hne := ne_nil_of_get? hg
  refine ⟨resolve_of_extends (extends_set hne (.inr hg)) hr, ?_⟩
  rw [get?_set hne, if_pos rfl]

end Disk

namespace Options
variable {file overrides : Entries} {name source text : String} {o : Options} {disk disk' : Disk}

/-! The flat set. -/

theorem custom_not_mem_layered (hfile : "custom" ∉ Keyed.keys file)
    (hover : "custom" ∉ Keyed.keys overrides) :
    "custom" ∉ Keyed.keys (layered file overrides) := by
  rw [← Keyed.get?_eq_none_iff, get?_layered, naming?_custom, naming?_custom,
    Keyed.last?_eq_none hfile, Keyed.last?_eq_none hover]
  rfl

/-- A list with the options in front is the options and the others. -/
theorem filter_options_append_others {es : Entries} (hn : (Keyed.keys es).Nodup)
    (hfirst : Draft.optionNames <+: Keyed.keys es) (hcustom : "custom" ∉ Keyed.keys es) :
    Keyed.keys (es.filter fun e => e.1 ∈ Draft.optionNames) = Draft.optionNames ∧
      (es.filter fun e => e.1 ∈ Draft.optionNames) ++ others es = es := by
  obtain ⟨front, back, rfl, hfront⟩ : ∃ front back, es = front ++ back ∧
      Keyed.keys front = Draft.optionNames := by
    refine ⟨es.take Draft.optionNames.length, es.drop Draft.optionNames.length,
      (List.take_append_drop _ _).symm, ?_⟩
    rw [Keyed.keys, List.map_take]
    exact (List.prefix_iff_eq_take.1 hfirst).symm
  rw [Keyed.keys_append, hfront] at hn hcustom
  have hin : ∀ e ∈ front, e.1 ∈ Draft.optionNames := fun e he =>
    hfront ▸ List.mem_map_of_mem (f := (·.1)) he
  have hout : ∀ e ∈ back, e.1 ∉ Draft.optionNames := fun e he hmem =>
    (List.nodup_append.1 hn).2.2 _ hmem _ (List.mem_map_of_mem (f := (·.1)) he) rfl
  have hno : ∀ e ∈ back, Draft.isOption e.1 = false := by
    intro e he
    rw [Draft.isOption, Bool.or_eq_false_iff, decide_eq_false_iff_not, decide_eq_false_iff_not]
    refine ⟨hout e he, fun heq => hcustom (List.mem_append_right _ ?_)⟩
    exact heq ▸ List.mem_map_of_mem (f := (·.1)) he
  have hoptions : ((front ++ back).filter fun e => e.1 ∈ Draft.optionNames) = front := by
    rw [List.filter_append, List.filter_eq_self.2 fun e he => decide_eq_true (hin e he),
      List.filter_eq_nil_iff.2 fun e he => by simpa using hout e he, List.append_nil]
  have hothers : others (front ++ back) = back := by
    rw [others, List.filter_append,
      List.filter_eq_nil_iff.2 fun e he => by rw [isOption_of_mem (hin e he)]; decide,
      List.filter_eq_self.2 fun e he => by rw [hno e he]; rfl, List.nil_append]
  rw [hoptions, hothers]
  exact ⟨hfront, rfl⟩

/-- The flat set of what the layers describe is the list they come to. -/
theorem flat_of_settle (hcustom : "custom" ∉ Keyed.keys (layered file overrides))
    (h : settle file overrides = .ok o) :
    flat o = Custom.ofEntries (layered file overrides) := by
  have hn := nodup_layered file overrides
  obtain ⟨hkeys, hsplit⟩ := filter_options_append_others hn
    (optionNames_isPrefix_layered file overrides) hcustom
  obtain ⟨hoptions, hfield⟩ := of_draftOf (settle_eq_ok.1 h)
  have hempty : fieldOf (layered file overrides) = .entries [] := by
    rw [fieldOf, Keyed.last?_eq_none hcustom]
    rfl
  have hsame : Keyed.keys defaults = _ := keys_defaults.trans hkeys.symm
  rw [Keyed.update_of_keys_eq hsame (hsame ▸ nodup_optionNames)] at hoptions
  have hbehind : o.custom = Custom.ofEntries (others (layered file overrides)) := by
    rcases hfield with ⟨hothers, hfield⟩ | ⟨-, c, hc, hfield⟩
    · rw [hempty] at hfield
      rw [hothers]
      exact CustomField.entries.inj hfield
    · rw [hempty] at hc
      cases hc
      have hnodup : (Keyed.keys (others (layered file overrides))).Nodup := by
        rw [← hsplit, Keyed.keys_append] at hn
        exact (List.nodup_append.1 hn).2.1
      exact (CustomField.entries.inj hfield).trans (ofList_ofEntries hnodup)
  rw [flat, hoptions, hbehind, Custom.update_ofEntries, Keyed.update_of_nodup (by rwa [hsplit]),
    hsplit]

theorem written_ofEntries (es : Entries) : (Custom.ofEntries es).written = es := by
  unfold Custom.ofEntries Custom.written
  rw [List.map_map]
  exact List.map_id es

/-! The parts of a file. -/

theorem partsFrom_ofEntries (before : List Char) (es : Entries) :
    Custom.partsFrom before (.ofEntries es) = Json.entryParts 1 before es := by
  induction es generalizing before with
  | nil => rfl
  | cons e r ih =>
    obtain ⟨k, v⟩ := e
    rw [Json.entryParts, ← ih]
    rfl

/-- Entries under texts are written as an object. -/
theorem parts_ofEntries {es : Entries} (hne : es ≠ []) :
    Custom.parts (.ofEntries es) = (Json.object es).parts 0 := by
  rw [Custom.parts, partsFrom_ofEntries, Json.parts]
  exact hne

def Spoils (ps : List Json.Part) (cs : List Char) (f : LoadFault) : Prop :=
  f = .longNumber ∧ none ∈ ps ∨ (∃ why, f = .unencodable why) ∧ ¬ Text.Encodable cs

/-- Either all of a text is written, or a part of it up to what cannot be. -/
theorem writtenParts_cases {ps : List Json.Part} {cs : List Char} (h : Json.Lays ps cs) :
    none ∉ ps ∧ Text.Encodable cs ∧ writtenParts ps = (cs, none) ∨
      ∃ kept f, writtenParts ps = (kept, some f) ∧ kept <+: cs ∧ Spoils ps cs f := by
  induction h with
  | nil => exact .inl ⟨List.not_mem_nil, Text.encodable_nil, rfl⟩
  | missing t _ _ =>
    exact .inr ⟨[], _, rfl, List.nil_prefix, .inl ⟨rfl, List.mem_cons_self⟩⟩
  | @whole t ps cs _ ih =>
    rw [writtenParts]
    cases ht : Text.unencodable? t with
    | some why =>
      refine .inr ⟨[], _, rfl, List.nil_prefix, .inr ⟨⟨why, rfl⟩, fun hall => ?_⟩⟩
      rw [Text.unencodable?_eq_none_iff.2 (Text.encodable_append.1 hall).1] at ht
      cases ht
    | none =>
      have htext := Text.unencodable?_eq_none_iff.1 ht
      rcases ih with ⟨hnone, hcs, heq⟩ | ⟨kept, f, heq, hpre, hspoils⟩
      · refine .inl ⟨by simpa using hnone, Text.encodable_append.2 ⟨htext, hcs⟩, ?_⟩
        rw [heq]
      · refine .inr ⟨t ++ kept, f, ?_, (List.prefix_append_right_inj t).2 hpre, ?_⟩
        · rw [heq]
        · refine hspoils.imp (.imp_right (List.mem_cons_of_mem _)) (.imp_right fun hno => ?_)
          exact fun hall => hno (Text.encodable_append.1 hall).2

/-! Saving. -/

/-- A file can hold settings without a number of too many digits and without halves. -/
structure Storable (o : Options) : Prop where
  short : (Json.object (flat o).written).all Json.isShort = true
  encodable : (Json.object (flat o).written).all Json.isEncodable = true

/-- Saving comes to its end with the text of the settings in the file, or the file is left with
a part of the text. -/
theorem save_of_fill {es : Entries} (hflat : flat o = .ofEntries es) (hne : es ≠ [])
    {opened : Disk} (hfill : disk.fill (.ofString name) "" = .ok opened) :
    ∃ names, disk.resolve (.ofString name) = .ok names ∧ disk.get? names ≠ some .directory ∧
      (o.Storable ∧ save disk (.ofOptions o) name =
        (disk.set names (.file (.text (Json.object es).pretty)), .ok (Json.object es).pretty) ∨
      ¬ o.Storable ∧ ∃ kept f, save disk (.ofOptions o) name =
        (disk.set names (.file (.text (.ofList kept))), .error f) ∧
          kept <+: (Json.object es).spread 0 ∧
          Spoils ((Json.object es).parts 0) ((Json.object es).spread 0) f) := by
  obtain ⟨names, hr, hg⟩ := Disk.exists_of_fill hfill
  have hput : ∀ content, disk.fill (.ofString name) content =
      .ok (disk.set names (.file (.text content))) := fun _ => Disk.fill_of_not_directory hr hg
  have hsave : save disk (.ofOptions o) name =
      match writtenParts ((Json.object es).parts 0) with
      | (cs, none) => (disk.set names (.file (.text (.ofList cs))), .ok (.ofList cs))
      | (cs, some f) => (disk.set names (.file (.text (.ofList cs))), .error f) := by
    have hparts : (Draft.ofOptions o).flat = .ok (flat o) := rfl
    rw [save, hput]
    dsimp only
    rw [hparts, hflat]
    dsimp only
    rw [parts_ofEntries hne, hput]
    generalize writtenParts ((Json.object es).parts 0) = written
    obtain ⟨cs, fault?⟩ := written
    cases fault? <;> rfl
  have hstorable : o.Storable ↔ none ∉ (Json.object es).parts 0 ∧
      Text.Encodable ((Json.object es).spread 0) := by
    rw [Json.none_mem_parts, Bool.not_eq_false, Json.encodable_spread]
    constructor
    · rintro ⟨hshort, hencodable⟩
      rw [hflat, written_ofEntries] at hshort hencodable
      exact ⟨hshort, hencodable⟩
    · rintro ⟨hshort, hencodable⟩
      rw [← written_ofEntries es, ← hflat] at hshort hencodable
      exact ⟨hshort, hencodable⟩
  refine ⟨names, hr, hg, ?_⟩
  rcases writtenParts_cases (Json.lays_parts (.object es) 0) with
    ⟨hnone, hall, heq⟩ | ⟨kept, f, heq, hpre, hspoils⟩
  · refine .inl ⟨hstorable.2 ⟨hnone, hall⟩, ?_⟩
    rw [hsave, heq]
    rfl
  · refine .inr ⟨fun h => ?_, kept, f, ?_, hpre, hspoils⟩
    · obtain ⟨hnone, hall⟩ := hstorable.1 h
      rcases hspoils with ⟨-, hmem⟩ | ⟨-, hno⟩
      · exact hnone hmem
      · exact hno hall
    · rw [hsave, heq]

theorem isRegular_layered (hfile : (Json.object file).all Json.isRegular = true)
    (hover : (Json.object overrides).all Json.isRegular = true) :
    (Json.object (layered file overrides)).all Json.isRegular = true :=
  Json.all_object.2 ⟨decide_eq_true (nodup_layered file overrides),
    forall_mem_layered (P := fun v => v.all Json.isRegular = true) (by decide)
      (Json.all_object.1 hfile).2 (Json.all_object.1 hover).2⟩

theorem layered_ne_nil : layered file overrides ≠ [] := by
  intro hnil
  have hfirst := optionNames_isPrefix_layered file overrides
  rw [hnil] at hfirst
  exact absurd (List.prefix_nil.1 hfirst) (by decide)

/-- A file of entries is read as these. -/
theorem ofFound_pretty {path : Path} {es : Entries} (hname : isJsonName path = true)
    (hkept : (Json.object es).all Json.isKept = true) :
    ofFound path (.ok (.file (.text (Json.object es).pretty))) = .ok es := by
  unfold ofFound
  dsimp only
  rw [hname, Json.read_pretty]
  simp only [ofText, Json.parse_pretty hkept]
  rfl

def weighedOverrides : Entries :=
  [("prefix", .text "LC"), ("weight", .real (.ofDecimal false 1 (-1)))]

def weighed : Options where
  namePrefix := "LC"
  custom := [(.text "k", .int 1), (.text "weight", .real (.ofDecimal false 1 (-1)))]

theorem fill_saved (content : String) : houseDisk.fill (.ofString "saved.json") content =
    .ok (houseDisk.set ["saved.json"] (.file (.text content))) := by
  have hresolve : houseDisk.resolve (.ofString "saved.json") = .ok ["saved.json"] := by
    rw [Disk.resolve_eq_ok]
    decide +kernel
  have hnew : houseDisk.get? ["saved.json"] = none := rfl
  exact Disk.fill_of_not_directory hresolve (by simp [hnew])

def half : String := .ofList (Text.held 0xd800)

def halved : Options where
  namePrefix := half
  custom := [(.text "k", .int 1)]

def begun : String :=
  "\x7b\n  \"use_tabs\": false,\n  \"indent_spaces\": 4,\n  \"name_prefix\": "

end Options
end UmlPress
