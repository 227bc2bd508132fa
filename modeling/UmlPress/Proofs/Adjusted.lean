import UmlPress.Command.Run
import UmlPress.Proofs.Precedence
import UmlPress.Proofs.Stems

/-!
# Settings of the command line

What the command line gives is laid over the settings of a file, option by option. So settings
that a file may have stay settings: the only value that could be wrong is a negative width.
-/
namespace UmlPress.Options
variable {es file overrides : Entries} {name : String} {d d' : Draft} {o : Options}

/-- A draft is known by its options as entries and its custom entries. -/
theorem Draft.eq_of_optionEntries (h : d.optionEntries = d'.optionEntries)
    (hcustom : d.custom = d'.custom) : d = d' := by
  cases d
  cases d'
  simp only [Draft.optionEntries, List.cons.injEq, Prod.mk.injEq, true_and] at h
  obtain ⟨rfl, rfl, rfl, rfl, rfl, rfl, rfl, rfl, -⟩ := h
  cases hcustom
  rfl

theorem others_put (hname : Draft.isOption name = true) (hmem : name ∈ Keyed.keys es) (v : Json) :
    others (Keyed.put name v es) = others es := by
  induction es with
  | nil => cases hmem
  | cons e r ih =>
    rw [Keyed.put]
    split
    case isTrue heq => simp [others, heq, hname]
    case isFalse hne =>
      have hr := ih ((List.mem_cons.1 hmem).resolve_left (Ne.symm hne))
      unfold others at hr ⊢
      rw [List.filter_cons, hr, List.filter_cons]

theorem others_update (hnames : ∀ e ∈ overrides, Draft.isOption e.1 = true)
    (hmem : ∀ e ∈ overrides, e.1 ∈ Keyed.keys es) :
    others (Keyed.update es overrides) = others es := by
  induction overrides generalizing es with
  | nil => rfl
  | cons e r ih =>
    obtain ⟨hname, hnames⟩ := List.forall_mem_cons.1 hnames
    obtain ⟨hmem, hrest⟩ := List.forall_mem_cons.1 hmem
    rw [Keyed.update_cons, ih hnames, others_put hname hmem]
    rwa [Keyed.keys_put_of_mem hmem]

section
variable (hn : (Keyed.keys overrides).Nodup) (hnames : ∀ e ∈ overrides, e.1 ∈ Draft.optionNames)
include hn hnames

theorem named_of_optionNames : named overrides = overrides := by
  refine named_eq_self hn fun name hname => optionName_of_isOption (isOption_of_mem ?_)
  obtain ⟨e, he, rfl⟩ := List.mem_map.1 hname
  exact hnames e he

theorem naming?_of_optionNames (name : String) :
    naming? name overrides = Keyed.last? name overrides := by
  rw [← last?_named, named_of_optionNames hn hnames]

omit hn in
theorem last?_custom_of_optionNames : Keyed.last? "custom" overrides = none := by
  refine Keyed.last?_eq_none fun hmem => ?_
  obtain ⟨e, he, heq⟩ := List.mem_map.1 hmem
  exact absurd (heq ▸ hnames e he) (by decide)

theorem others_layered : others (layered file overrides) = others (layered file []) := by
  have hlayered : layered file overrides = (layered file []).update overrides :=
    congrArg _ (named_of_optionNames hn hnames)
  rw [hlayered]
  refine others_update (fun e he => isOption_of_mem (hnames e he)) fun e he => ?_
  exact (optionNames_isPrefix_layered file []).subset (hnames e he)

theorem fieldOf_layered : fieldOf (layered file overrides) = fieldOf (layered file []) := by
  have hlast : Keyed.last? "custom" (layered file overrides) =
      Keyed.last? "custom" (layered file []) := by
    rw [Keyed.last?_eq_get? (nodup_layered _ _), Keyed.last?_eq_get? (nodup_layered _ _),
      get?_layered, get?_layered, naming?_of_optionNames hn hnames,
      last?_custom_of_optionNames hnames]
    rfl
  rw [fieldOf, fieldOf, hlast]

theorem optionEntries_layered : (drafted (layered file overrides)).optionEntries =
    Keyed.update (drafted (layered file [])).optionEntries overrides := by
  have hset : Keyed.update (drafted (layered file [])).optionEntries overrides =
      (overrides.foldl (fun d e => d.set e.1 e.2) (drafted (layered file []))).optionEntries := by
    rw [optionEntries_foldl_set, List.filter_eq_self.2 fun e he => decide_eq_true (hnames e he)]
  refine Keyed.eq_of_get? ?_ ?_ fun name hname => ?_
  · rw [hset]
    rfl
  · exact nodup_optionNames
  · have hname : name ∈ Draft.optionNames := hname
    rw [Keyed.get?_update, get?_drafted (nodup_layered _ _) hname,
      get?_drafted (nodup_layered _ _) hname, get?_layered, get?_layered,
      naming?_of_optionNames hn hnames, Option.or_assoc, show naming? name [] = none from rfl,
      Option.none_or]

/-- Options that are laid over settings are set in their draft. -/
theorem draftOf_layered (h : draftOf (layered file []) = .ok d) :
    draftOf (layered file overrides) = .ok (overrides.foldl (fun d e => d.set e.1 e.2) d) := by
  have hset (d : Draft) :
      (overrides.foldl (fun d e => d.set e.1 e.2) d).optionEntries =
        Keyed.update d.optionEntries overrides ∧
      (overrides.foldl (fun d e => d.set e.1 e.2) d).custom = d.custom := by
    constructor
    · rw [optionEntries_foldl_set,
        List.filter_eq_self.2 fun e he => decide_eq_true (hnames e he)]
    · rw [custom_foldl_set, last?_custom_of_optionNames hnames]
      rfl
  have hentries : (drafted (layered file overrides)).optionEntries =
      Keyed.update (drafted (layered file [])).optionEntries overrides :=
    optionEntries_layered hn hnames
  rw [draftOf_eq] at h ⊢
  rw [others_layered hn hnames, fieldOf_layered hn hnames]
  split at h
  case isTrue hothers =>
    cases h
    rw [if_pos hothers]
    refine congrArg _ (Draft.eq_of_optionEntries ?_ ?_)
    · rw [hentries, (hset _).1]
    · rw [(hset _).2, custom_drafted, custom_drafted, fieldOf_layered hn hnames]
  case isFalse hothers =>
    obtain ⟨c, hc, rfl⟩ := map_eq_ok.1 h
    rw [if_neg hothers, hc]
    refine congrArg _ (Draft.eq_of_optionEntries ?_ ?_)
    · rw [(hset _).1]
      exact hentries
    · rw [(hset _).2]

end

end UmlPress.Options

namespace UmlPress.Command
open Options
variable {a : Arguments} {entries : Entries} {o : Options} {given : List String}

def Arguments.over (a : Arguments) (o : Options) : Options :=
  { o with
    useTabs := a.useTabs || o.useTabs
    indentSpaces := (a.indentSpaces.map Int.toNat).getD o.indentSpaces
    namePrefix := a.namePrefix.getD o.namePrefix
    docString := !a.noDocs && o.docString }

theorem keys_overrides_sublist (a : Arguments) : (Keyed.keys (overrides a)).Sublist
    ["use_tabs", "indent_spaces", "name_prefix", "doc_string"] := by
  unfold overrides Keyed.keys
  cases a.useTabs <;> cases a.indentSpaces <;> cases a.namePrefix <;> cases a.noDocs <;> simp

theorem set_overrides (o : Options) (h : ∀ n, a.indentSpaces ≠ some (.negSucc n)) :
    (overrides a).foldl (fun d e => d.set e.1 e.2) (Draft.ofOptions o) =
      Draft.ofOptions (a.over o) := by
  unfold overrides Arguments.over
  rcases hwidth : a.indentSpaces with _ | n | n
  case none => cases a.useTabs <;> cases a.namePrefix <;> cases a.noDocs <;> rfl
  case some.ofNat => cases a.useTabs <;> cases a.namePrefix <;> cases a.noDocs <;> rfl
  case some.negSucc => exact absurd hwidth (h n)

theorem check_overrides {n : Nat} (o : Options) (h : a.indentSpaces = some (.negSucc n)) :
    ((overrides a).foldl (fun d e => d.set e.1 e.2) (Draft.ofOptions o)).check =
      .error (.notWidth (.int (.negSucc n))) := by
  unfold overrides
  rw [h]
  cases a.useTabs <;> cases a.namePrefix <;> cases a.noDocs <;> rfl

/-- What the command line gives settles with the settings of a file, unless it gives a negative
width. -/
theorem settle_overrides (h : Options.settle entries [] = .ok o) :
    Options.settle entries (overrides a) =
    match a.indentSpaces with
    | some (.negSucc n) => .error (Options.Fault.notWidth (.int (.negSucc n))).told
    | _ => .ok (a.over o) := by
  have hkeys := keys_overrides_sublist a
  have hnames : ∀ e ∈ overrides a, e.1 ∈ Draft.optionNames := fun e he =>
    (by decide : ∀ name ∈ ["use_tabs", "indent_spaces", "name_prefix", "doc_string"],
      name ∈ Draft.optionNames) _ (hkeys.subset (List.mem_map_of_mem he))
  have hdraft := draftOf_layered (hkeys.nodup (by decide)) hnames (settle_eq_ok.1 h)
  unfold Options.settle
  rw [hdraft]
  change (Draft.check _).mapError Options.Fault.told = _
  split
  case h_1 n hwidth =>
    rw [check_overrides o hwidth]
    rfl
  case h_2 hwidth =>
    rw [set_overrides o hwidth, check_eq_ok.2 rfl]
    rfl

theorem stems_of_mem_ite {c : Prop} [Decidable c] {ts us : List String}
    (ht : ∀ s ∈ ts, Stems given s) (hu : ∀ s ∈ us, Stems given s) :
    ∀ s ∈ if c then ts else us, Stems given s := by
  split
  · exact ht
  · exact hu

/-- Settings without a directory of templates can be warned about. -/
theorem exists_warnings (h : o.templateDir = none) (hlead : Stems given o.namePrefix)
    (hextension : Stems given o.fileExtension) (found : Path → Except Disk.Refusal Item) :
    ∃ texts, (Draft.ofOptions o).warnings found = .ok texts ∧ ∀ s ∈ texts, Stems given s := by
  have hfirst : Stems given s!"file_extension '{o.fileExtension}' does not start with a dot" :=
    .append (.append (.of_unsigned (by decide)) hextension) (.of_unsigned (by decide))
  have hsecond : Stems given "indent_spaces is ignored when use_tabs is set" :=
    .of_unsigned (by decide)
  have hthird : Stems given s!"name_prefix is not a valid identifier: {o.namePrefix}" :=
    .append (.of_unsigned (by decide)) hlead
  have hnone : ∀ s ∈ [], Stems given s := List.forall_mem_nil _
  unfold Draft.warnings Draft.ofOptions
  rw [h]
  dsimp only [bind, Except.bind, pure, Except.pure]
  rw [if_pos (by decide)]
  split
  all_goals
    refine ⟨_, rfl, ?_⟩
    simp only [List.forall_mem_append]
  · exact ⟨⟨⟨stems_of_mem_ite hnone (List.forall_mem_singleton.2 hfirst),
      stems_of_mem_ite (List.forall_mem_singleton.2 hsecond) hnone⟩, hnone⟩, hnone⟩
  · exact ⟨⟨⟨stems_of_mem_ite hnone (List.forall_mem_singleton.2 hfirst),
      stems_of_mem_ite (List.forall_mem_singleton.2 hsecond) hnone⟩, hnone⟩,
      stems_of_mem_ite hnone (List.forall_mem_singleton.2 hthird)⟩

end UmlPress.Command
