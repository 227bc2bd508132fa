import UmlPress.Proofs.Adjusted
import UmlPress.Proofs.Chosen
import UmlPress.Proofs.Course
import UmlPress.Proofs.Loading
import UmlPress.Proofs.ReadBack

/-!
# How a command ends

A command over a document of the right form exits with zero or one, unless it is halted. It is
halted by a bracket or half of a character in one of the texts that it shows, by a null
character or such a half in what it writes or writes it to, by a width that there is no room for
or that is too long to be told, and by an output directory that cannot be asked for.
-/
namespace UmlPress.Source
variable {file address : Option String} {path : Path} {content : Content} {cs : List Char}
  {es : Entries}

theorem ends_fromFile (hread : content.read = .ok cs) (hparse : Json.parse cs = .ok (.object es)) :
    Ends (fromFile path (.ok (.file content))) (.ok ⟨path.text, es⟩) := by
  have hvalue : Ends (ofContent path content) (.ok (.object es)) :=
    (readsText_ofContent hread).value _ hparse
  have htail : Ends (do
      let v ← ofContent path content
      info s!"Successfully loaded model from {path.text}"
      requireObject path.text v) (.ok ⟨path.text, es⟩) :=
    hvalue.bind ((ends_note _).bind (ends_pure _))
  refine (ends_note _).bind ?_
  dsimp only
  split
  · exact (ends_note _).bind htail
  · exact htail

end UmlPress.Source

namespace UmlPress.Command
open Emit
variable {given : List String} {a : Arguments} {o : Options} {es : Entries} {m : Machine}
  {s : Snapshot} {d : Disk}

/-- What may halt a command: a bracket or half of a character in a text that it is given, a null
character or half of one in what it writes, and what it is asked to indent by or to write to. -/
inductive Halt.Due (given : List String) (a : Arguments) (o : Options) (d : Disk) : Halt → Prop
  | markup {f : Console.MarkupFault} : (∃ t ∈ given, '[' ∈ t.toList) → Due given a o d (.markup f)
  | console {why : Text.Unencodable} : (∃ t ∈ given, ¬ Text.Encodable t.toList) →
    Due given a o d (.console why)
  | nullCharacter {shown : String} : a.dryRun = false → (∃ t ∈ given, '\x00' ∈ t.toList) →
    Due given a o d (.trouble (.refused shown .nullCharacter))
  | unencodable {shown : String} {why : Text.Unencodable} : a.dryRun = false →
    (∃ t ∈ given, ¬ Text.Encodable t.toList) →
    Due given a o d (.trouble (.refused shown (.unencodable why)))
  | misuse {f : Misuse} : (a.over o).checkIndent = .error f → Due given a o d (.misuse f)
  | longWidth {n : Nat} : a.indentSpaces = some (.negSucc n) →
    (Options.Fault.notWidth (.int (.negSucc n))).isTold = false →
    Due given a o d (.options .longNumber)
  | refused {shown : String} {r : Disk.Refusal} : a.dryRun = false →
    d.status (.ofString a.output) = .error r → r.isAbsent = false →
    Due given a o d (.refused shown r)

/-- A command is aborted with a message that speaks in given texts, or it is halted. -/
inductive Abort.Due (given : List String) (a : Arguments) (o : Options) (d : Disk) : Abort → Prop
  | failed {message : String} {fromInside : Bool} : Stems given message →
    Due given a o d (.failed message fromInside)
  | halt {f : Halt} : f.Due given a o d → Due given a o d (.halt f)

theorem Abort.Due.halts : Halts given (Abort.Due given a o d) :=
  ⟨fun _ h => .halt (.markup h), fun _ h => .halt (.console h)⟩

/-! Running. -/

theorem known_over (hw : s.WellFormed) (hs : s.Spoken (Stems given) (Whole given))
    (hstock : o.templateDir = none) (hlead : Stems given (a.over o).namePrefix)
    (hextension : Stems given o.fileExtension) (hmarker : Stems given o.initFileName)
    (hclass : Stems given o.baseClass) : Workshop.Known given ⟨s, a.over o⟩ where
  wellFormed := hw
  spoken := hs
  stock := by
    unfold Workshop.directory?
    rw [show (a.over o).templateDir = none from hstock]
  namePrefix := hlead
  fileExtension := hextension
  initFileName := hmarker
  baseClass := hclass.whole

/-- What a run ends in: a report, a fault that is shown, or a reason to be halted. -/
theorem leads_report {I : Machine → Prop} {Q : Report → Machine → Prop} {refusing : Prop}
    {r : Except Trouble Report} (h : Ended given refusing (a.over o) r)
    (hd : refusing → a.dryRun = false)
    (hQ : ∀ report, report.Stems given → ∀ m, I m → Q report m) :
    Leads I (orAbort failTrouble r) (Abort.Due given a o d) Q := by
  obtain h | ⟨f, hf, rfl⟩ := h
  · refine Leads.orAbort (fun t ht => ?_) fun report hr => ?_
    · subst ht
      cases h with
      | fault hf => exact .failed hf
      | nullCharacter hrefusing hgiven => exact .halt (.nullCharacter (hd hrefusing) hgiven)
      | unencodable hrefusing hgiven => exact .halt (.unencodable (hd hrefusing) hgiven)
    · subst hr
      exact hQ report h
  · exact Leads.throw (.halt (.misuse hf))

section
variable (hk : Workshop.Known given ⟨s, a.over o⟩) (hout : Stems given a.output)
include hk hout

/-- A dry run over a known model exits, unless something that it shows cannot be shown. -/
theorem leads_preview : Leads (Machine.Still d) (preview Machine.world s (a.over o) a.output)
    (Abort.Due given a o d) fun code _ => code = 0 ∨ code = 1 := by
  refine (Leads.lift (Q := fun y m => Ended given False (a.over o) y.1 ∧ FilesStem given y.2 ∧
    m.Still d) fun m hm => ?_).bind fun y => ?_
  · rw [run_memory_world _ _ hm.journal]
    obtain ⟨hended, hfiles⟩ := (conforms_generate hk (Path.stems_ofString hout)).run
      (serves_ofMemory m.disk) (s := {}) nofun
    exact ⟨hended, hfiles, hm⟩
  obtain ⟨result, store⟩ := y
  refine Leads.assume fun hended => Leads.assume fun hfiles => ?_
  refine (leads_report (Q := fun r m => r.Stems given ∧ m.Still d) hended nofun
    fun r hr m hm => ⟨hr, hm⟩).bind fun report => ?_
  refine Leads.assume fun hreport => ?_
  refine (leads_showAll (printable_still d) Abort.Due.halts (List.forall_mem_map.2 fun f hf =>
    have hfile := hfiles f (List.mem_filter.1 hf).1
    shows_file hfile.1 hfile.2)).bind fun _ => ?_
  exact (leads_showReport hreport Abort.Due.halts).mono fun _ _ => trivial

/-- A run over a known model exits as well, unless the file system cannot be asked for one of
its paths or cannot take one of its pages. -/
theorem leads_generate (hd : a.dryRun = false) :
    Leads (Machine.Still d) (generate Machine.world s (a.over o) a.output)
      (Abort.Due given a o d) fun code _ => code = 0 ∨ code = 1 := by
  have hpath : (Path.ofString a.output).Stems given := Path.stems_ofString hout
  have hmissing : Abort.Due given a o d (generate.missing (Path.ofString a.output)) :=
    .failed (.append (.of_unsigned (by decide)) (Path.stems_text hpath))
  refine (leads_status _).bind fun status => Leads.assume fun hstatus => ?_
  split
  · refine (Leads.lift (Q := fun r _ => Ended given True (a.over o) r ∧ True)
      fun m hm => ?_).bind fun r => ?_
    · exact ⟨((conforms_generate hk hpath).run serves_world hm.journal).1, trivial⟩
    refine Leads.assume fun hended => ?_
    refine (leads_report (Q := fun r _ => r.Stems given ∧ True) hended (fun _ => hd)
      fun r hr m hm => ⟨hr, hm⟩).bind fun report => ?_
    exact Leads.assume fun hreport => leads_showReport hreport Abort.Due.halts
  · exact Leads.throw hmissing
  · refine Leads.throw ?_
    split
    case isTrue => exact hmissing
    case isFalse htold =>
      exact .halt (.refused hd hstatus.symm (Bool.eq_false_iff.2 htold))

end

/-! The way to the run. -/

structure Fit (given : List String) (s : Snapshot) : Prop where
  wellFormed : s.WellFormed
  spoken : s.Spoken (Stems given) (Whole given)

theorem leads_choosePackage (hs : Fit given s) (hrequest : ∀ t ∈ a.package, Stems given t) :
    Leads (Machine.Still d) (choosePackage Machine.world s a.package) (Abort.Due given a o d)
      fun s m => Fit given s ∧ m.Still d := by
  obtain ⟨r, hr, hfaults, hindex⟩ := s.exists_chosen a.package
  refine (Leads.orAbort_ok hr).bind fun y => Leads.assume fun heq => ?_
  subst heq
  rcases y with f | _ | spot
  · obtain ⟨t, ht, rfl⟩ := hfaults f rfl
    exact Leads.throw (.failed (.append (.of_unsigned (by decide)) (hrequest t ht)))
  · exact Leads.pure fun m hm => ⟨hs, hm⟩
  · refine (leads_noteAll s.notes).bind fun _ => Leads.pure fun m hm => ⟨?_, hm⟩
    exact ⟨hs.wellFormed.withBase (hindex spot rfl), hs.spoken.withBase spot⟩

theorem exists_entries {file : Option String} (h : Options.load d [] file = .ok o) :
    ∃ entries, Options.settle entries [] = .ok o ∧ (Source.given file = none ∧ entries = [] ∨
      ∃ name, Source.given file = some name ∧
        Options.ofFound (.ofString name) (d.status (.ofString name)) = .ok entries) := by
  unfold Options.load at h
  split at h
  case h_1 => exact ⟨[], h, .inl ⟨rfl, rfl⟩⟩
  case h_2 => exact ⟨[], h, .inl ⟨rfl, rfl⟩⟩
  case h_3 name hname =>
    obtain ⟨entries, hentries, hsettle⟩ := bind_eq_ok.1 h
    refine ⟨entries, hsettle, .inr ⟨name, ?_, hentries⟩⟩
    unfold Source.given
    split
    case h_1 heq => exact (hname (Option.some.inj heq)).elim
    case h_2 => rfl

/-- The entries of the file of settings, where there is one, settle by themselves. -/
theorem leads_fileEntries (h : Options.load d [] a.config = .ok o) :
    Leads (Machine.Still d) (fileEntries Machine.world a.config) (Abort.Due given a o d)
      fun entries m => Options.settle entries [] = .ok o ∧ m.Still d := by
  obtain ⟨entries, hsettle, ⟨hgiven, rfl⟩ | ⟨name, hgiven, hentries⟩⟩ := exists_entries h
  · unfold fileEntries
    rw [hgiven]
    exact Leads.pure fun m hm => ⟨hsettle, hm⟩
  · unfold fileEntries
    rw [hgiven]
    refine (leads_status _).bind fun status => Leads.assume fun hstatus => ?_
    rw [hstatus]
    refine (Leads.orAbort_ok hentries).bind fun found => Leads.assume fun hfound => ?_
    rw [hfound]
    exact (leads_note _).bind fun _ => Leads.pure fun m hm => ⟨hsettle, hm⟩

theorem stems_notWidth (n : Nat) :
    Stems given (Options.Fault.notWidth (.int (.negSucc n))).message := by
  have hquoted : (Json.int (.negSucc n)).quoted = "-" ++ toString (n + 1) :=
    String.ofList_toList
  refine .append (.of_unsigned (by decide)) ?_
  rw [hquoted]
  exact .append (.of_unsigned (by decide)) (.number _)

theorem leads_buildOptions (h : Options.load d [] a.config = .ok o) (hstock : o.templateDir = none)
    (hlead : Stems given (a.over o).namePrefix) (hextension : Stems given o.fileExtension) :
    Leads (Machine.Still d) (buildOptions Machine.world a) (Abort.Due given a o d)
      fun o' m => o' = a.over o ∧ m.Still d := by
  refine (leads_fileEntries h).bind fun entries => Leads.assume fun hsettle => ?_
  have hsettled := settle_overrides (a := a) hsettle
  have hover : Leads (Machine.Still d) (orAbort failOptions (Options.settle entries (overrides a)))
      (Abort.Due given a o d) fun o' m => o' = a.over o ∧ m.Still d := by
    split at hsettled
    case h_1 n hwidth =>
      rw [hsettled]
      unfold Options.Fault.told
      split
      · exact Leads.throw (.failed (stems_notWidth n))
      · exact Leads.throw (.halt (.longWidth hwidth (Bool.eq_false_iff.2 ‹_›)))
    case h_2 => exact Leads.orAbort_ok hsettled
  refine hover.bind fun o' => Leads.assume fun heq => ?_
  subst heq
  have hdirectory : Emit.Workshop.directory? (a.over o) = none := by
    unfold Workshop.directory?
    rw [show (a.over o).templateDir = none from hstock]
  rw [hdirectory]
  obtain ⟨texts, htexts, hstems⟩ := exists_warnings (o := a.over o) hstock hlead hextension
    fun _ => .error .missing
  refine (Leads.orAbort_ok htexts).bind fun ws => Leads.assume fun heq => ?_
  subst heq
  refine (leads_showAll (printable_still d) Abort.Due.halts
    (List.forall_mem_map.2 fun s hs => shows_warning (hstems s hs))).bind fun _ => ?_
  exact Leads.pure fun m hm => ⟨rfl, hm⟩

theorem load_world {name : String} {content : Content} {cs : List Char}
    (hfile : Source.given a.file = some name) (hurl : Source.given a.url = none)
    (hjournal : m.journal = none) (hstatus : m.disk.status (.ofString name) = .ok (.file content))
    (hread : content.read = .ok cs) (hparse : Json.parse cs = .ok (.object es)) :
    Machine.world.load a.file a.url m = (.ok ⟨(Path.ofString name).text, es⟩, m) := by
  have hends : Source.Ends (Source.load a.file a.url
      (fun _ => m.disk.status (.ofString name)) .timeout)
      (.ok ⟨(Path.ofString name).text, es⟩) := by
    unfold Source.load
    rw [hfile, hurl, hstatus]
    exact Source.ends_fromFile hread hparse
  unfold World.load
  rw [hfile, hurl]
  change ((Source.load a.file a.url (fun _ => m.disk.status (.ofString name)) .timeout).run.1,
    (Machine.world.noteAll (Source.load a.file a.url
      (fun _ => m.disk.status (.ofString name)) .timeout).run.2 m).2) = _
  rw [noteAll_world hjournal]
  exact congrArg (·, m) (hends [])

/-- A document of which a snapshot can be made is loaded, unless its name cannot be shown. -/
theorem leads_loadSnapshot {A : Abort → Prop} {name : String} {content : Content} {cs : List Char}
    (hfile : Source.given a.file = some name) (hurl : Source.given a.url = none)
    (hstatus : d.status (.ofString name) = .ok (.file content))
    (hread : content.read = .ok cs) (hparse : Json.parse cs = .ok (.object es))
    (hname : Stems given name) (hs : Document.toSnapshot es = .ok s)
    (hA : Halts given A) :
    Leads (Machine.Still d) (loadSnapshot Machine.world a) A fun s' m => s' = s ∧ m.Still d := by
  have hload : Leads (Machine.Still d) (liftM (Machine.world.load a.file a.url)) A
      fun loaded m => loaded = .ok ⟨(Path.ofString name).text, es⟩ ∧ m.Still d :=
    Leads.lift fun m hm => by
      rw [load_world hfile hurl hm.journal (hm.disk ▸ hstatus) hread hparse]
      exact ⟨rfl, hm⟩
  refine hload.bind fun loaded => Leads.assume fun hloaded => ?_
  refine (Leads.orAbort_ok hloaded).bind fun l => Leads.assume fun hl => ?_
  subst hl
  have hshown : Stems given s!"📄 Loaded: {(Path.ofString name).text}" :=
    .append (.of_unsigned (by decide)) (Path.stems_text (Path.stems_ofString hname))
  refine (leads_showLines (printable_still d) hA (shows_text hshown)).bind fun _ => ?_
  refine (Leads.orAbort_ok hs).bind fun s' => Leads.assume fun hs' => ?_
  exact (leads_noteAll _).bind fun _ => Leads.pure fun m hm => ⟨hs', hm⟩

/-! The whole command. -/

/-- The texts that a command is given: on its line, in its settings and in its document. -/
def givenTexts (a : Arguments) (o : Options) (es : Entries) : List String :=
  a.file.toList ++ a.output :: (a.package.toList ++ a.namePrefix.toList) ++
    [o.namePrefix, o.fileExtension, o.initFileName, o.baseClass] ++ (Json.object es).texts

/-- A command over a file with a document of the right form, whose top element is a package and
whose ids differ. The settings are valid and have no directory of templates. -/
structure Orderly (a : Arguments) (d : Disk) (es : Entries) (o : Options) : Prop where
  noJournal : a.logFile = none
  noAddress : Source.given a.url = none
  document : ∃ name content cs, Source.given a.file = some name ∧
    d.status (.ofString name) = .ok (.file content) ∧ content.read = .ok cs ∧
    Json.parse cs = .ok (.object es)
  formed : (Json.object es).all Document.isFormed = true
  package : ∃ type ∈ Document.packageTypes, Document.typeOf es = .text type
  ids : Document.IdsDiffer es
  settings : Options.load d [] a.config = .ok o
  noTemplates : o.templateDir = none

theorem stems_given {t : String} (h : t ∈ a.file.toList ++ a.output ::
    (a.package.toList ++ a.namePrefix.toList) ++
      [o.namePrefix, o.fileExtension, o.initFileName, o.baseClass]) : Stems (givenTexts a o es) t :=
  .of_mem (List.mem_append_left _ h)

theorem grounds_given : Document.Grounds (Stems given) (Whole given) where
  empty := .empty
  numbered n := .append (.of_unsigned (by decide)) (.number n)
  weaker _ := Stems.whole
  quoted := Whole.quoted

theorem exists_fit (h : Orderly a d es o) : ∃ s, Document.toSnapshot es = .ok s ∧
    Fit (givenTexts a o es) s := by
  have hsound : Document.Sound (Stems (givenTexts a o es)) (.object es) :=
    ⟨h.formed, fun t ht => .of_mem (List.mem_append_right _ ht)⟩
  obtain ⟨s, hs, hbase, hspoken⟩ := Document.exists_spoken grounds_given hsound
  obtain ⟨hh, hd⟩ := Document.distinct_of_idsDiffer h.package h.ids hs
  exact ⟨s, hs, Snapshot.wellFormed_of_spoken hspoken hh hd hbase, hspoken⟩

theorem leads_work (h : Orderly a d es o) :
    Leads (Machine.Still d) (work Machine.world a) (Abort.Due (givenTexts a o es) a o d)
      fun code _ => code = 0 ∨ code = 1 := by
  obtain ⟨name, content, cs, hfile, hstatus, hread, hparse⟩ := h.document
  obtain ⟨s, hs, hfit⟩ := exists_fit h
  have hname : Stems (givenTexts a o es) name := stems_given (by
    have hfile : a.file = some name := by
      unfold Source.given at hfile
      split at hfile
      · cases hfile
      · exact hfile
    simp [hfile])
  have hout : Stems (givenTexts a o es) a.output := stems_given (by simp)
  have hrequest : ∀ t ∈ a.package, Stems (givenTexts a o es) t :=
    fun t ht => stems_given (by simp [Option.mem_def.1 ht])
  have hlead : Stems (givenTexts a o es) (a.over o).namePrefix := stems_given (by
    unfold Arguments.over
    cases a.namePrefix <;> simp)
  have hextension : Stems (givenTexts a o es) o.fileExtension := stems_given (by simp)
  have hmarker : Stems (givenTexts a o es) o.initFileName := stems_given (by simp)
  have hclass : Stems (givenTexts a o es) o.baseClass := stems_given (by simp)
  unfold work
  rw [if_neg (by simp [hfile])]
  refine (leads_loadSnapshot hfile h.noAddress hstatus hread hparse hname hs
    Abort.Due.halts).bind fun s' => Leads.assume fun heq => ?_
  subst heq
  split
  case isTrue =>
    refine (leads_showLines (printable_still d) Abort.Due.halts
      (shows_packages hfit.spoken.root)).bind fun _ => ?_
    exact Leads.pure fun m hm => .inl rfl
  case isFalse =>
    refine (leads_buildOptions h.settings h.noTemplates hlead hextension).bind fun o' =>
      Leads.assume fun ho => ?_
    subst ho
    refine (leads_choosePackage hfit hrequest).bind fun s => Leads.assume fun hfit => ?_
    have hk := known_over hfit.wellFormed hfit.spoken h.noTemplates hlead hextension hmarker
      hclass
    split
    case isTrue => exact leads_preview hk hout
    case isFalse hdry => exact leads_generate hk hout (by simpa using hdry)

theorem run_bind_apply {α β : Type} (x : StateM Machine α) (f : α → StateM Machine β)
    (m : Machine) : (x >>= f) m = f (x m).1 (x m).2 := rfl

/-- An error that is shown is an exit with one. -/
theorem showError_due {message : String} (h : Stems given message) (m : Machine) :
    match (showError Machine.world message m).1 with
    | .ok code => code = 0 ∨ code = 1
    | .error f => f.Due given a o d := by
  have hshows := shows_error h
  unfold showError
  generalize shownText s!"[red]✗ Error:[/red] {message}" = shown at hshows ⊢
  cases shown with
  | ok ls =>
    have hprinted : ∀ why, (Machine.world.print ls m).1 = .error why →
        ∃ t ∈ given, ¬ Text.Encodable t.toList := by
      intro why hwhy
      by_contra! hgiven
      exact Machine.not_encodable_of_print hwhy (hshows.whole ls rfl hgiven)
    dsimp only
    rw [run_bind_apply]
    generalize Machine.world.print ls m = y at hprinted ⊢
    obtain ⟨why | ⟨⟩, m'⟩ := y
    · exact .console (hprinted why rfl)
    · exact .inr rfl
  | error f => exact .markup (hshows.fault f rfl)

/-- A command that keeps no notes in a file ends as its work leads to. -/
theorem execute_of_leads {A : Abort → Prop} {Q : Nat → Machine → Prop} {P : Except Halt Nat → Prop}
    (hlog : a.logFile = none) (h : Leads (Machine.Still m.disk) (work Machine.world a) A Q)
    (hexit : ∀ code m', Q code m' → P (.ok code)) (hhalt : ∀ f, A (.halt f) → P (.error f))
    (hfailed : ∀ message fromInside m', A (.failed message fromInside) →
      P (showError Machine.world message m').1) : P (execute Machine.world a m).1 := by
  have hwork := h { m with journal := none } ⟨rfl, rfl⟩
  have hopen : Machine.world.openJournal a.verbose none m =
      (.ok (), { m with journal := none }) := rfl
  unfold execute
  rw [hlog, run_bind_apply, hopen]
  dsimp only
  rw [run_bind_apply]
  generalize (work Machine.world a).run { m with journal := none } = y at hwork ⊢
  obtain ⟨e | code, m'⟩ := y
  · cases e with
    | halt f => exact hhalt f hwork
    | failed message fromInside =>
      cases fromInside with
      | true => exact hfailed message true _ hwork
      | false => exact hfailed message false m' hwork
  · exact hexit code m' hwork

def fairShop (name : String) : Entries :=
  [("_type", .text "UMLClass"), ("_id", .text "c"), ("name", .text name)]

def fairStreet (name : String) : Entries :=
  [("_type", .text "UMLModel"), ("_id", .text "s"), ("name", .text "street"),
    ("ownedElements", .list [.object (fairShop name)])]

def fair (name : String) : Entries :=
  [("_type", .text "Project"), ("_id", .text "f"), ("name", .text "fair"),
    ("ownedElements", .list [.object (fairStreet name)])]

def fairText (name : String) : String := (Json.object (fair name)).pretty

def fairMachine (name : String) : Machine where
  disk := { entries := [(["fair.mdj"], .file (.text (fairText name))), (["out"], .directory)] }

theorem elementsOf_fair (name : String) : Document.elementsOf (fair name) =
    [⟨[], fair name⟩, ⟨[0], fairStreet name⟩, ⟨[0, 0], fairShop name⟩] := by
  simp [Document.elementsOf, Document.Item.outline_eq, Document.Item.owned,
    Document.Item.isElement, Document.Item.edge?, Document.Item.edgeTypes, Document.Item.top, fair,
    fairStreet, fairShop, Document.Item.type, Json.memberD, Keyed.get?, Json.equals,
    Document.listOf, Document.itemsBelow]

theorem idsDiffer_fair (name : String) : Document.IdsDiffer (fair name) := by
  have hwritten : Document.writtenIds (Document.elementsOf (fair name)) =
      [.text "f", .text "s", .text "c"] := by
    rw [elementsOf_fair]
    rfl
  have hmissing : Document.missingIds (Document.elementsOf (fair name)) = 0 := by
    rw [elementsOf_fair]
    rfl
  constructor
  · rw [hwritten]
    decide
  · intro id _ k hk hle
    omega

theorem resolve_fair (name : String) {file : String} (h : file = "fair.mdj" ∨ file = "out") :
    (fairMachine name).disk.resolve (.ofString file) = .ok [file] := by
  have hlimit : (fairMachine name).disk.pathLimit = 4095 := rfl
  rw [Disk.resolve_eq_ok, hlimit]
  rcases h with rfl | rfl
  · exact ⟨by decide +kernel, by decide +kernel, by decide +kernel, rfl⟩
  · exact ⟨by decide +kernel, by decide +kernel, by decide +kernel, rfl⟩

theorem status_fair (name : String) :
    (fairMachine name).disk.status (.ofString "fair.mdj") =
      .ok (.file (.text (fairText name))) :=
  Disk.status_of_resolve (resolve_fair name (.inl rfl)) rfl

theorem status_out (name : String) :
    (fairMachine name).disk.status (.ofString "out") = .ok .directory :=
  Disk.status_of_resolve (resolve_fair name (.inr rfl)) rfl

theorem orderly_fair (name : String) (dryRun listPackages : Bool) :
    Orderly { file := some "fair.mdj", output := "out", dryRun, listPackages }
      (fairMachine name).disk (fair name) {} where
  noJournal := rfl
  noAddress := rfl
  document := ⟨_, _, _, rfl, status_fair name, Json.read_pretty _, Json.parse_pretty rfl⟩
  formed := rfl
  package := ⟨"Project", by decide, rfl⟩
  ids := idsDiffer_fair name
  settings := rfl
  noTemplates := rfl

end UmlPress.Command
