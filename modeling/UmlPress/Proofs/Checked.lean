import UmlPress.Proofs.Precedence

/-!
# What is accepted as settings

Each option has a kind of value. Settings are accepted if the value that is named last for each
option is of its kind, whatever else they name. Only a value for the custom entries that is no
object gets past the check, or fails before it, if a name that is no option stands beside it.
-/
namespace UmlPress.Options
variable {es file overrides : Entries} {name key : String} {o : Options} {disk : Disk} {v : Json}
  {d : Draft} {f : LoadFault} {g : Fault}

/-! Kinds of values. -/

inductive Kind where
  | flag
  | width
  | text
  | textOrNull
  deriving DecidableEq

namespace Kind

def admits : Kind → Json → Bool
  | .flag, .bool _ => true
  | .width, .int n => 0 ≤ n
  | .text, .text _ => true
  | .textOrNull, .text _ => true
  | .textOrNull, .null => true
  | _, _ => false

def fault (name : String) (v : Json) : Kind → Fault
  | .flag => .notBoolean name v
  | .width => .notWidth v
  | .text | .textOrNull => .notText name v

end Kind

def optionKinds : List (String × Kind) :=
  [("use_tabs", .flag), ("indent_spaces", .width), ("name_prefix", .text), ("doc_string", .flag),
   ("base_class", .text), ("file_extension", .text), ("init_file_name", .text),
   ("template_dir", .textOrNull)]

theorem names_optionKinds : optionKinds.map (·.1) = Draft.optionNames := rfl

/-- Every default passes its own check. -/
theorem admits_defaults :
    ∀ e ∈ optionKinds, (Keyed.get? e.1 defaults).all e.2.admits = true := by decide

/-! The first fault. -/

def checkOrder : List (String × Kind) :=
  [("use_tabs", .flag), ("doc_string", .flag), ("indent_spaces", .width), ("name_prefix", .text),
   ("base_class", .text), ("file_extension", .text), ("init_file_name", .text),
   ("template_dir", .textOrNull)]

theorem mem_checkOrder {e : String × Kind} : e ∈ checkOrder ↔ e ∈ optionKinds := by
  have hperm : checkOrder.Perm optionKinds := by decide
  exact hperm.mem_iff

def misfit? (values : String → Option Json) (e : String × Kind) : Option Fault :=
  (values e.1).bind fun v => if e.2.admits v then none else some (e.2.fault e.1 v)

theorem findSome?_congr {α β : Type} {xs : List α} {find look : α → Option β}
    (h : ∀ a ∈ xs, find a = look a) : xs.findSome? find = xs.findSome? look := by
  induction xs with
  | nil => rfl
  | cons a r ih =>
    obtain ⟨ha, hr⟩ := List.forall_mem_cons.1 h
    rw [List.findSome?_cons, List.findSome?_cons, ha, ih hr]

theorem misfit?_eq_none_iff {values : String → Option Json} {e : String × Kind} :
    misfit? values e = none ↔ (values e.1).all e.2.admits = true := by
  unfold misfit?
  cases values e.1 with
  | none => simp
  | some v => by_cases h : e.2.admits v = true <;> simp [h]

def CustomField.fault? : CustomField → Option Fault
  | .entries _ => none
  | .other _ => some .customNotObject

def refusal? {α : Type} : Except Fault α → Option Fault
  | .ok _ => none
  | .error f => some f

/-- If the later steps ask the same of every value, they are asked if the first one is passed. -/
theorem refusal?_bind {α β : Type} {x : Except Fault α} {next : α → Except Fault β}
    {later : Option Fault} (h : ∀ a, refusal? (next a) = later) :
    refusal? (x >>= next) = (refusal? x).or later := by
  cases x with
  | ok a => exact h a
  | error f => rfl

theorem refusal?_boolean (name : String) (v : Json) :
    refusal? (Draft.boolean name v) = misfit? (fun _ => some v) (name, .flag) := by
  cases v <;> rfl

theorem refusal?_width (name : String) (v : Json) :
    refusal? (Draft.width v) = misfit? (fun _ => some v) (name, .width) := by
  cases v with
  | int n => cases n <;> rfl
  | _ => rfl

theorem refusal?_text (name : String) (v : Json) :
    refusal? (Draft.text name v) = misfit? (fun _ => some v) (name, .text) := by
  cases v <;> rfl

theorem refusal?_textOrNull (name : String) (v : Json) :
    refusal? (Draft.textOrNull name v) = misfit? (fun _ => some v) (name, .textOrNull) := by
  cases v <;> rfl

theorem refusal?_entries (field : CustomField) :
    refusal? (Draft.entries field) = field.fault? := by
  cases field <;> rfl

/-- The check finds the first value that is not of its kind. -/
theorem refusal?_check (d : Draft) : refusal? d.check =
    (checkOrder.findSome? (misfit? (Keyed.get? · d.optionEntries))).or d.custom.fault? := by
  have hlast {x : Except Fault Custom} {done : Custom → Options} :
      refusal? (x >>= fun a => pure (done a)) = refusal? x := by cases x <;> rfl
  have hcons (e : String × Kind) (r : List (String × Kind)) (find : String × Kind → Option Fault) :
      (e :: r).findSome? find = (find e).or (r.findSome? find) := by
    rw [List.findSome?_cons]
    cases find e <;> rfl
  refine (refusal?_bind fun _ => refusal?_bind fun _ => refusal?_bind fun _ =>
    refusal?_bind fun _ => refusal?_bind fun _ => refusal?_bind fun _ => refusal?_bind fun _ =>
    refusal?_bind fun _ => hlast).trans ?_
  rw [refusal?_boolean, refusal?_boolean, refusal?_width "indent_spaces", refusal?_text,
    refusal?_text, refusal?_text, refusal?_text, refusal?_textOrNull, refusal?_entries]
  simp only [checkOrder, hcons, List.findSome?_nil, Option.or_none, Option.or_assoc]
  rfl

/-! What is named. -/

theorem naming?_append (name : String) (file overrides : Entries) :
    naming? name (file ++ overrides) = (naming? name overrides).or (naming? name file) := by
  unfold naming? renamed Keyed.last?
  rw [List.map_append, List.reverse_append, Keyed.get?_append]

def known (es : Entries) : Entries := es.filter fun e => Draft.isOption (optionName e.1)

theorem naming?_known (h : Draft.isOption name = true) (es : Entries) :
    naming? name (known es) = naming? name es := by
  have hrenamed : renamed (known es) = (renamed es).filter fun e => Draft.isOption e.1 := by
    rw [renamed, renamed, known, List.filter_map]
    rfl
  rw [naming?, hrenamed]
  exact Keyed.last?_filter Draft.isOption h (renamed es)

/-- Every value that is named last for an option is of the option's kind. -/
def OptionsAdmitted (es : Entries) : Prop :=
  ∀ e ∈ optionKinds, (naming? e.1 es).all e.2.admits = true

def CustomAdmitted (es : Entries) : Prop :=
  ∀ v, naming? "custom" es = some v → ∃ cs, v = .object cs

/-- Every value that is named last is one that its option may have. -/
structure Admitted (es : Entries) : Prop where
  options : OptionsAdmitted es
  custom : CustomAdmitted es

/-- Whether a name that is no option is given. -/
def Foreign (es : Entries) : Prop := ∃ e ∈ es, Draft.isOption (optionName e.1) = false

theorem mem_optionNames_of_kinds {e : String × Kind} (h : e ∈ optionKinds) :
    e.1 ∈ Draft.optionNames := by
  rw [← names_optionKinds]
  exact List.mem_map_of_mem h

theorem isOption_of_mem_kinds {e : String × Kind} (h : e ∈ optionKinds) :
    Draft.isOption e.1 = true := isOption_of_mem (mem_optionNames_of_kinds h)

/-- Names that are no option have no part in what is accepted. -/
theorem admitted_known_iff : Admitted (known es) ↔ Admitted es := by
  have hoptions : OptionsAdmitted (known es) ↔ OptionsAdmitted es := by
    apply forall₂_congr
    intro e he
    rw [naming?_known (isOption_of_mem_kinds he)]
  have hcustom : CustomAdmitted (known es) ↔ CustomAdmitted es := by
    unfold CustomAdmitted
    rw [naming?_known (by decide)]
  constructor
  · intro h
    exact ⟨hoptions.1 h.options, hcustom.1 h.custom⟩
  · intro h
    exact ⟨hoptions.2 h.options, hcustom.2 h.custom⟩

/-- The fault of the first option whose last value is not of its kind. -/
def optionFault? (es : Entries) : Option Fault := checkOrder.findSome? (misfit? (naming? · es))

def customFault? (es : Entries) : Option Fault :=
  ((naming? "custom" es).map CustomField.ofJson).bind CustomField.fault?

def fault? (es : Entries) : Option Fault := (optionFault? es).or (customFault? es)

theorem optionFault?_eq_none_iff : optionFault? es = none ↔ OptionsAdmitted es := by
  unfold optionFault? OptionsAdmitted
  simp only [List.findSome?_eq_none_iff, mem_checkOrder, misfit?_eq_none_iff]

theorem customFault?_eq_none_iff : customFault? es = none ↔ CustomAdmitted es := by
  unfold customFault? CustomAdmitted
  cases naming? "custom" es with
  | none => simp
  | some v => cases v <;> simp [CustomField.ofJson, CustomField.fault?]

/-- Settings without a fault are those with every value of its kind. -/
theorem fault?_eq_none_iff : fault? es = none ↔ Admitted es := by
  unfold fault?
  rw [Option.or_eq_none_iff, optionFault?_eq_none_iff, customFault?_eq_none_iff]
  exact ⟨fun h => ⟨h.1, h.2⟩, fun h => ⟨h.options, h.custom⟩⟩

theorem fault?_known (es : Entries) : fault? (known es) = fault? es := by
  have hoptions : ∀ e ∈ checkOrder,
      misfit? (naming? · (known es)) e = misfit? (naming? · es) e := by
    intro e he
    have hname := naming?_known (isOption_of_mem_kinds (mem_checkOrder.1 he)) es
    exact congrArg (Option.bind · _) hname
  have hall : optionFault? (known es) = optionFault? es := findSome?_congr hoptions
  rw [fault?, fault?, hall, customFault?, customFault?, naming?_known (by decide)]

/-! The draft of what is named. -/

theorem get?_layered_append (name : String) (file overrides : Entries) :
    Keyed.get? name (layered file overrides) =
      (naming? name (file ++ overrides)).or (Keyed.get? name defaults) := by
  rw [get?_layered, naming?_append, Option.or_assoc]

theorem get?_drafted_layered (h : name ∈ Draft.optionNames) :
    Keyed.get? name (drafted (layered file overrides)).optionEntries =
      (naming? name (file ++ overrides)).or (Keyed.get? name defaults) := by
  rw [get?_drafted (nodup_layered _ _) h, get?_layered_append, Option.or_assoc, Option.or_self]

/-- A drafted value has the fault of the named one. -/
theorem misfit?_drafted_layered {e : String × Kind} (he : e ∈ checkOrder) :
    misfit? (Keyed.get? · (drafted (layered file overrides)).optionEntries) e =
      misfit? (naming? · (file ++ overrides)) e := by
  have hkind := mem_checkOrder.1 he
  have hdefault : misfit? (Keyed.get? · defaults) e = none :=
    misfit?_eq_none_iff.2 (admits_defaults e hkind)
  unfold misfit? at hdefault ⊢
  dsimp only
  rw [get?_drafted_layered (mem_optionNames_of_kinds hkind)]
  cases naming? e.1 (file ++ overrides) with
  | some v => rfl
  | none => exact hdefault

theorem refusal?_check_drafted (field : CustomField) :
    refusal? { drafted (layered file overrides) with custom := field }.check =
      (optionFault? (file ++ overrides)).or field.fault? := by
  rw [refusal?_check, optionFault?]
  exact congrArg (Option.or · _) (findSome?_congr fun e he => misfit?_drafted_layered he)

theorem mem_keys_layered : key ∈ Keyed.keys (layered file overrides) ↔
    key ∈ Draft.optionNames ∨ ∃ e ∈ file ++ overrides, optionName e.1 = key := by
  have hnamed (es : Entries) :
      key ∈ Keyed.keys (named es) ↔ ∃ e ∈ es, optionName e.1 = key := by
    rw [named, Keyed.ofList, Keyed.mem_keys_update]
    simp [Keyed.keys]
  rw [layered, Keyed.mem_keys_update, Keyed.mem_keys_update, keys_defaults, hnamed, hnamed,
    or_assoc]
  simp only [List.mem_append, or_and_right, exists_or]

theorem others_layered_eq_nil_iff :
    others (layered file overrides) = [] ↔ ¬ Foreign (file ++ overrides) := by
  rw [others, List.filter_eq_nil_iff, Foreign]
  push Not
  constructor
  · intro h e he hforeign
    have hkey : optionName e.1 ∈ Keyed.keys (layered file overrides) :=
      mem_keys_layered.2 (.inr ⟨e, he, rfl⟩)
    obtain ⟨entry, hentry, heq⟩ := List.mem_map.1 hkey
    apply h entry hentry
    rw [heq, hforeign]
    rfl
  · intro h entry hentry
    rcases mem_keys_layered.1 (List.mem_map_of_mem (f := (·.1)) hentry) with hmem | ⟨e, he, heq⟩
    · rw [isOption_of_mem hmem]
      simp
    · have hoption := h e he
      rw [heq] at hoption
      simpa using hoption

def ownEntries (es : Entries) : Entries :=
  match naming? "custom" es with
  | some (.object cs) => cs
  | _ => []

theorem fieldOf_layered_append : fieldOf (layered file overrides) =
    ((naming? "custom" (file ++ overrides)).map CustomField.ofJson).getD (.entries []) := by
  have hdefault : Keyed.get? "custom" defaults = none := by decide
  rw [fieldOf, Keyed.last?_eq_get? (nodup_layered _ _), get?_layered_append, hdefault,
    Option.or_none]

theorem fieldOf_of_admitted (h : CustomAdmitted (file ++ overrides)) :
    fieldOf (layered file overrides) = .entries (.ofEntries (ownEntries (file ++ overrides))) := by
  rw [fieldOf_layered_append, ownEntries]
  cases hv : naming? "custom" (file ++ overrides) with
  | none => rfl
  | some v =>
    obtain ⟨cs, rfl⟩ := h v hv
    rfl

/-- The custom entries of a draft are the named ones with the entries that are no options laid
over them. -/
theorem draftOf_of_admitted (h : CustomAdmitted (file ++ overrides))
    (hn : (Keyed.keys (ownEntries (file ++ overrides))).Nodup) :
    draftOf (layered file overrides) = .ok { drafted (layered file overrides) with
      custom := .entries (.ofEntries
        (Keyed.update (ownEntries (file ++ overrides)) (others (layered file overrides)))) } := by
  have hfield := fieldOf_of_admitted h
  have hcustom := custom_drafted (layered file overrides)
  rw [draftOf_eq, hfield]
  by_cases hothers : others (layered file overrides) = []
  · rw [if_pos hothers, hothers, Keyed.update_nil, ← hfield, ← hcustom]
  · rw [if_neg hothers, customOf_entries]
    have hupdate : (Custom.ofList (Custom.ofEntries (ownEntries (file ++ overrides)))).update
        (.ofEntries (others (layered file overrides))) = Custom.ofEntries
          (Keyed.update (ownEntries (file ++ overrides)) (others (layered file overrides))) := by
      rw [ofList_ofEntries hn, Custom.update_ofEntries]
    rw [← hupdate]
    rfl

/-- What a settled record holds of what is named: the options' values, and custom entries of
the object named for them under the entries that are no options. -/
structure Holds (o : Options) (es : Entries) : Prop where
  options : ∀ option ∈ Draft.optionNames, Keyed.get? option (Draft.ofOptions o).optionEntries =
    (naming? option es).or (Keyed.get? option defaults)
  custom : ∃ entries, o.custom = .ofEntries entries ∧ (Keyed.keys entries).Nodup ∧
    ∀ key, Keyed.get? key entries =
      (if Draft.isOption key then none else naming? key es).or (Keyed.get? key (ownEntries es))

theorem get?_others_layered (key : String) :
    Keyed.last? key (others (layered file overrides)) =
      if Draft.isOption key then none else naming? key (file ++ overrides) := by
  by_cases hoption : Draft.isOption key = true
  · rw [if_pos hoption]
    apply Keyed.last?_eq_none
    intro hmem
    obtain ⟨e, he, rfl⟩ := List.mem_map.1 hmem
    have hnot := (List.mem_filter.1 he).2
    simp [hoption] at hnot
  · rw [if_neg hoption]
    have hnot : Draft.isOption key = false := by simpa using hoption
    have hdefault : Keyed.get? key defaults = none := by
      rw [Draft.isOption, Bool.or_eq_false_iff, decide_eq_false_iff_not] at hnot
      exact Keyed.get?_eq_none_iff.2 hnot.1
    rw [last?_others hnot, Keyed.last?_eq_get? (nodup_layered _ _), get?_layered_append, hdefault,
      Option.or_none]

/-- Settings end as the check of their draft does. -/
theorem settle_of_draftOf {field : CustomField} (h : draftOf (layered file overrides) =
    .ok { drafted (layered file overrides) with custom := field }) :
    ((optionFault? (file ++ overrides)).or field.fault? = none →
      ∃ o, { drafted (layered file overrides) with custom := field } = Draft.ofOptions o ∧
        settle file overrides = .ok o) ∧
    ∀ g, (optionFault? (file ++ overrides)).or field.fault? = some g →
      settle file overrides = .error g.told := by
  rw [← refusal?_check_drafted]
  generalize hd : { drafted (layered file overrides) with custom := field } = d at h ⊢
  have hsettle : settle file overrides = d.check.mapError Fault.told := by
    unfold settle
    rw [h]
    rfl
  rw [hsettle]
  cases hcheck : d.check with
  | ok o => exact ⟨fun _ => ⟨o, check_eq_ok.1 hcheck, rfl⟩, nofun⟩
  | error f =>
    refine ⟨nofun, ?_⟩
    rintro g ⟨⟩
    rfl

theorem holds_of_drafted {c : Entries}
    (ho : { drafted (layered file overrides) with custom := .entries (.ofEntries c) } =
      Draft.ofOptions o)
    (hn : (Keyed.keys c).Nodup)
    (hc : ∀ key, Keyed.get? key c = (if Draft.isOption key then none
      else naming? key (file ++ overrides)).or (Keyed.get? key (ownEntries (file ++ overrides)))) :
    o.Holds (file ++ overrides) := by
  have hoptions : (drafted (layered file overrides)).optionEntries =
      (Draft.ofOptions o).optionEntries := by
    rw [← ho]
    rfl
  have hcustom : CustomField.entries (.ofEntries c) = (Draft.ofOptions o).custom := by
    rw [← ho]
  constructor
  · intro option hoption
    rw [← hoptions, get?_drafted_layered hoption]
  · exact ⟨c, (CustomField.entries.inj hcustom).symm, hn, hc⟩

/-- With an object for the custom entries, or none, settings hold what is named, or the first
fault is told. -/
theorem settle_of_admitted (h : CustomAdmitted (file ++ overrides))
    (hn : (Keyed.keys (ownEntries (file ++ overrides))).Nodup) :
    (OptionsAdmitted (file ++ overrides) →
      ∃ o, settle file overrides = .ok o ∧ o.Holds (file ++ overrides)) ∧
    ∀ g, optionFault? (file ++ overrides) = some g → settle file overrides = .error g.told := by
  obtain ⟨hpasses, hfails⟩ := settle_of_draftOf (draftOf_of_admitted h hn)
  rw [CustomField.fault?, Option.or_none] at hpasses hfails
  refine ⟨fun hoptions => ?_, hfails⟩
  obtain ⟨o, ho, hsettle⟩ := hpasses (optionFault?_eq_none_iff.2 hoptions)
  refine ⟨o, hsettle, holds_of_drafted ho (Keyed.nodup_keys_update _ hn) ?_⟩
  intro key
  rw [Keyed.get?_update, get?_others_layered]

/-- If nothing is laid over a value for the custom entries, its fault is told as well. -/
theorem settle_of_not_foreign (hforeign : ¬ Foreign (file ++ overrides)) (g : Fault)
    (h : fault? (file ++ overrides) = some g) : settle file overrides = .error g.told := by
  have hdraft : draftOf (layered file overrides) = .ok { drafted (layered file overrides) with
      custom := (drafted (layered file overrides)).custom } := by
    rw [draftOf_eq, if_pos (others_layered_eq_nil_iff.2 hforeign)]
  apply (settle_of_draftOf hdraft).2
  have hfield : (drafted (layered file overrides)).custom.fault? =
      customFault? (file ++ overrides) := by
    rw [customFault?, custom_drafted, fieldOf_layered_append]
    cases naming? "custom" (file ++ overrides) <;> rfl
  rw [← h, fault?, ← hfield]

/-- If something is laid over it, the value is read as pairs, and a reading that fails ends it
all. -/
theorem settle_of_bypassed (hforeign : Foreign (file ++ overrides))
    (hv : naming? "custom" (file ++ overrides) = some v) (hno : ∀ cs, v ≠ .object cs) :
    (∀ f, customOf (.other v) = .error f → settle file overrides = .error f) ∧
    ∀ c, customOf (.other v) = .ok c →
      (OptionsAdmitted (file ++ overrides) → ∃ o, settle file overrides = .ok o) ∧
      ∀ g, optionFault? (file ++ overrides) = some g →
        settle file overrides = .error g.told := by
  have hfield : fieldOf (layered file overrides) = .other v := by
    rw [fieldOf_layered_append, hv]
    cases v with
    | object cs => exact absurd rfl (hno cs)
    | _ => rfl
  have hothers : others (layered file overrides) ≠ [] :=
    fun hnil => others_layered_eq_nil_iff.1 hnil hforeign
  have hdraft := draftOf_eq (layered file overrides)
  rw [if_neg hothers, hfield] at hdraft
  constructor
  · intro f hf
    rw [hf] at hdraft
    unfold settle
    rw [hdraft]
    rfl
  · intro c hc
    rw [hc] at hdraft
    obtain ⟨hpasses, hfails⟩ := settle_of_draftOf hdraft
    rw [CustomField.fault?, Option.or_none] at hpasses hfails
    refine ⟨fun hoptions => ?_, hfails⟩
    obtain ⟨o, -, hsettle⟩ := hpasses (optionFault?_eq_none_iff.2 hoptions)
    exact ⟨o, hsettle⟩

/-- Pairs that cannot be read are no fault of an option. -/
theorem not_option_of_pairsFrom {position : Nat} {xs : List Json}
    (h : pairsFrom position xs = .error f) : ∀ g, f ≠ .option g := by
  induction xs generalizing position with
  | nil => cases h
  | cons x r ih =>
    rw [pairsFrom] at h
    split at h
    · cases h
      simp
    · rename_i k v _
      obtain hkey | ⟨key, -, h⟩ := bind_eq_error.1 h
      · obtain ⟨m, -, rfl⟩ := mapError_eq_error.1 hkey
        simp
      · obtain hrest | ⟨rest, -, h⟩ := bind_eq_error.1 h
        · exact ih hrest
        · cases h
    · cases h
      simp

theorem not_option_of_customOf (h : customOf (.other v) = .error f) : ∀ g, f ≠ .option g := by
  unfold customOf at h
  split at h
  · cases v with
    | list xs => exact not_option_of_pairsFrom h
    | text s => exact not_option_of_pairsFrom h
    | _ =>
      cases h
      simp
  · cases h

/-! What a call is given. -/

/-- What overrides come to with a file or without one. A file that can be read gives the entries
of its object, or a number of too many digits puts an end to reading it. -/
inductive Told (disk : Disk) (overrides : Entries) :
    Option String → Except Json.Fault Entries → Prop
  | unfiled {path : Option String} : path = none ∨ path = some "" →
    Told disk overrides path (.ok overrides)
  | filed {name : String} {file : Entries} :
    ofFound (.ofString name) (disk.status (.ofString name)) = .ok file →
      Told disk overrides (some name) (.ok (file ++ overrides))
  | overlong {name : String} {fault : Json.Fault} :
    ofFound (.ofString name) (disk.status (.ofString name)) = .error (.longInteger fault) →
      Told disk overrides (some name) (.error fault)

theorem Told.settles {path : Option String} (h : Told disk overrides path (.ok es)) :
    ∃ file, load disk overrides path = settle file overrides ∧ es = file ++ overrides ∧
      (Json.object file).all Json.keysOnce = true := by
  cases h with
  | unfiled hpath =>
    refine ⟨[], ?_, rfl, by decide⟩
    rcases hpath with rfl | rfl <;> rfl
  | filed hfound =>
    exact ⟨_, load_of_found hfound, rfl, (of_ofFound Json.Reader.reads_keysOnce hfound).2⟩

theorem Told.load_overlong {path : Option String} {fault : Json.Fault}
    (h : Told disk overrides path (.error fault)) :
    load disk overrides path = .error (.longInteger fault) := by
  cases h with
  | @overlong name _ hfound =>
    have hname : name ≠ "" := by
      rintro rfl
      unfold ofFound at hfound
      split at hfound
      · split at hfound <;> cases hfound
      · rw [isJsonName_empty] at hfound
        cases hfound
    rw [load_some hname, hfound]
    rfl

/-- The keys of the object for the custom entries differ. -/
theorem nodup_ownEntries (hfile : (Json.object file).all Json.keysOnce = true)
    (hkeys : (Json.object overrides).all Json.keysOnce = true) :
    (Keyed.keys (ownEntries (file ++ overrides))).Nodup := by
  unfold ownEntries
  split
  · rename_i cs hcs
    rw [naming?_custom] at hcs
    have hmem := List.mem_reverse.1 (Keyed.mem_of_get? hcs)
    apply Json.nodup_of_all_keysOnce
    rcases List.mem_append.1 hmem with hmem | hmem
    · exact (Json.all_object.1 hfile).2 _ hmem
    · exact (Json.all_object.1 hkeys).2 _ hmem
  · exact List.nodup_nil

/-- Settings are accepted, with the values that are named last, just if these are of their kinds;
otherwise the first fault is told, for which its value must have no number of too many digits.
Names that are no option have no part in it. Only a value for the custom entries that is no object
fails in another way, or is accepted, if it stands beside one; and a file with a number of too many
digits is not read to its end. -/
theorem accepted_iff_admitted {path : Option String} {told : Except Json.Fault Entries}
    (htold : Told disk overrides path told)
    (hkeys : (Json.object overrides).all Json.keysOnce = true) :
    (∀ fault, told = .error fault → load disk overrides path = .error (.longInteger fault)) ∧
    ∀ es, told = .ok es →
      ((Admitted (known es) ↔ Admitted es) ∧ fault? (known es) = fault? es ∧
        (fault? es = none ↔ Admitted es)) ∧
      (¬ (Foreign es ∧ ¬ CustomAdmitted es) →
        (Admitted es → ∃ o, load disk overrides path = .ok o ∧ o.Holds es) ∧
        ∀ g, fault? es = some g →
          load disk overrides path = .error (if g.isTold then .option g else .longNumber)) ∧
      (Foreign es → ∀ v, naming? "custom" es = some v → (∀ cs, v ≠ .object cs) →
        (∀ f, customOf (.other v) = .error f →
          load disk overrides path = .error f ∧ ∀ g, f ≠ .option g) ∧
        ∀ c, customOf (.other v) = .ok c →
          (OptionsAdmitted es → ∃ o, load disk overrides path = .ok o) ∧
          ∀ g, optionFault? es = some g →
            load disk overrides path = .error (if g.isTold then .option g else .longNumber)) := by
  refine ⟨fun fault hfault => ?_, fun es hes => ?_⟩
  · rw [hfault] at htold
    exact htold.load_overlong
  · rw [hes] at htold
    obtain ⟨file, hload, rfl, hfile⟩ := htold.settles
    have hn := nodup_ownEntries hfile hkeys
    rw [hload]
    refine ⟨⟨admitted_known_iff, fault?_known _, fault?_eq_none_iff⟩, fun hbypass => ?_,
      fun hforeign v hv hno => ?_⟩
    · by_cases hcustom : CustomAdmitted (file ++ overrides)
      · obtain ⟨hpasses, hfails⟩ := settle_of_admitted hcustom hn
        refine ⟨fun h => hpasses h.options, fun g hg => hfails g ?_⟩
        rwa [fault?, customFault?_eq_none_iff.2 hcustom, Option.or_none] at hg
      · have hforeign : ¬ Foreign (file ++ overrides) := fun h => hbypass ⟨h, hcustom⟩
        exact ⟨fun h => absurd h.custom hcustom, settle_of_not_foreign hforeign⟩
    · obtain ⟨hfails, hpasses⟩ := settle_of_bypassed hforeign hv hno
      exact ⟨fun f hf => ⟨hfails f hf, not_option_of_customOf hf⟩, hpasses⟩

def narrowOverrides : Entries := [("indentSpaces", .int (-1)), ("k", .int 1)]

def wordyOverrides : Entries := [("useTab", .int (10 ^ Json.digitLimit : Nat))]

theorem not_isTold_of_long {n : Nat} (h : 10 ^ Json.digitLimit ≤ n) (name : String) :
    (Fault.notBoolean name (.int n)).isTold = false := by
  have hlong : Json.isShort (.int n) = false := by
    rw [Json.isShort, Int.natAbs_natCast, decide_eq_false_iff_not,
      Nat.length_toDigits_le_iff (by omega) (by decide)]
    exact Nat.not_lt.2 h
  exact hlong

theorem accepted_iff_admitted_house :
    (∃ o, load houseDisk houseOverrides (some "house.json") = .ok o ∧
      Keyed.get? "name_prefix" (Draft.ofOptions o).optionEntries = some (.text "LC")) ∧
    load houseDisk narrowOverrides none = .error (.option (.notWidth (.int (-1)))) ∧
    load houseDisk wordyOverrides none = .error .longNumber := by
  refine ⟨?_, ?_, ?_⟩
  · have hkeys : (Json.object houseOverrides).all Json.keysOnce = true := by decide
    obtain ⟨-, hexact, -⟩ := (accepted_iff_admitted (.filed ofFound_house) hkeys).2 _ rfl
    have hadmitted : Admitted ([("k", .int 1)] ++ houseOverrides) := by
      constructor
      · unfold OptionsAdmitted
        decide
      · rintro v ⟨⟩
        exact ⟨_, rfl⟩
    obtain ⟨o, hload, hholds⟩ := (hexact fun h => h.2 hadmitted.custom).1 hadmitted
    exact ⟨o, hload, hholds.options "name_prefix" (by decide)⟩
  · have hkeys : (Json.object narrowOverrides).all Json.keysOnce = true := by decide
    have htold : Told houseDisk narrowOverrides none (.ok narrowOverrides) := .unfiled (.inl rfl)
    obtain ⟨-, hexact, -⟩ := (accepted_iff_admitted htold hkeys).2 _ rfl
    have hcustom : CustomAdmitted narrowOverrides := by
      rintro v ⟨⟩
    rw [(hexact fun h => h.2 hcustom).2 (.notWidth (.int (-1))) rfl, if_pos (by decide)]
  · have hkeys : (Json.object wordyOverrides).all Json.keysOnce = true := rfl
    have htold : Told houseDisk wordyOverrides none (.ok wordyOverrides) := .unfiled (.inl rfl)
    obtain ⟨-, hexact, -⟩ := (accepted_iff_admitted htold hkeys).2 _ rfl
    have hcustom : CustomAdmitted wordyOverrides := by
      rintro v ⟨⟩
    have hfault := (hexact fun h => h.2 hcustom).2 (.notBoolean "use_tabs" (.int _)) rfl
    rw [hfault, not_isTold_of_long (Nat.le_refl _), if_neg Bool.false_ne_true]

/-- A number for the custom entries is a fault of the option alone, but not beside a name that is
no option, and there null passes for an object. -/
theorem misfit_custom_unnoticed :
    load houseDisk [("custom", .int 5)] none = .error (.option .customNotObject) ∧
    (∃ m, load houseDisk [("custom", .int 5), ("k", .int 1)] none = .error (.misuse m)) ∧
    ∃ o, load houseDisk [("custom", .null), ("k", .int 1)] none = .ok o := by
  exact ⟨rfl, ⟨.notIterable "int", rfl⟩, { custom := [(.text "k", .int 1)] }, rfl⟩

end UmlPress.Options
