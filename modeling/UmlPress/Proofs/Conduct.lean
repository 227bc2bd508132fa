import UmlPress.Proofs.Calls
import UmlPress.Proofs.Complete
import UmlPress.Proofs.Stems
import UmlPress.Proofs.WellFormed
import UmlPress.Emit.Sink

/-!
# The conduct of a run

A run over a well-formed model asks a store only for paths that are put together from given
texts, and has only pages written in which no half stands unless it stands in those. If the store
answers with nothing but faults that speak of them, the run ends in a report that does: the texts
are those of the model and the options that stand in names of files and on pages.
-/
namespace UmlPress.Emit

namespace Plan
variable {α β σ : Type} {asks : Path → Prop} {tells : String → Prop} {answers : Trouble → Prop}
  {P Q : α → Prop}

/-- A plan asks a store for certain paths only, has only certain texts written and never looks for
templates. If it meets certain trouble only, it ends as wanted. -/
def Conforms (asks : Path → Prop) (tells : String → Prop) (answers : Trouble → Prop)
    (Q : α → Prop) : Plan α → Prop
  | .done a => Q a
  | .makeDirectory p next => asks p ∧ ∀ answer : Answer, (∀ t, answer = .error t → answers t) →
    (next answer).Conforms asks tells answers Q
  | .write p content next => (asks p ∧ tells content) ∧
    ∀ answer : Answer, (∀ t, answer = .error t → answers t) →
      (next answer).Conforms asks tells answers Q
  | .look _ _ => False
  | .note _ next => next.Conforms asks tells answers Q

theorem Conforms.mono {x : Plan α} (h : x.Conforms asks tells answers P) (hPQ : ∀ a, P a → Q a) :
    x.Conforms asks tells answers Q := by
  induction x with
  | done a => exact hPQ a h
  | makeDirectory p next ih => exact ⟨h.1, fun answer ha => ih answer (h.2 answer ha)⟩
  | write p content next ih => exact ⟨h.1, fun answer ha => ih answer (h.2 answer ha)⟩
  | look p next ih => exact h.elim
  | note n next ih => exact ih h

theorem Conforms.bind {x : Plan α} {f : α → Plan β} {R : β → Prop}
    (h : x.Conforms asks tells answers Q)
    (hf : ∀ a, Q a → (f a).Conforms asks tells answers R) :
    (x.bind f).Conforms asks tells answers R := by
  induction x with
  | done a => exact hf a h
  | makeDirectory p next ih => exact ⟨h.1, fun answer ha => ih answer (h.2 answer ha)⟩
  | write p content next ih => exact ⟨h.1, fun answer ha => ih answer (h.2 answer ha)⟩
  | look p next ih => exact h.elim
  | note n next ih => exact ih h

theorem conforms_noteAll {ns : List Note} {x : Plan α} :
    (noteAll ns x).Conforms asks tells answers Q ↔ x.Conforms asks tells answers Q := by
  induction ns with
  | nil => rfl
  | cons n r ih => exact ih

end Plan

/-- A store that is asked for certain paths and given certain texts answers with certain trouble
only, and stays a store of that kind. -/
structure Sink.Serves {σ : Type} (sink : Sink (StateM σ)) (asks : Path → Prop)
    (tells : String → Prop) (answers : Trouble → Prop) (good : σ → Prop) : Prop where
  makeDirectory : ∀ p s, asks p → good s → good (sink.makeDirectory p s).2 ∧
    ∀ t, (sink.makeDirectory p s).1 = .error t → answers t
  write : ∀ p content s, asks p → tells content → good s → good (sink.write p content s).2 ∧
    ∀ t, (sink.write p content s).1 = .error t → answers t
  note : ∀ n s, good s → good (sink.note n s).2

/-- What a plan that conforms ends in on a store that serves it. -/
theorem Plan.Conforms.run {α σ : Type} {sink : Sink (StateM σ)} {asks : Path → Prop}
    {tells : String → Prop} {answers : Trouble → Prop} {good : σ → Prop} {Q : α → Prop}
    {x : Plan α} (h : x.Conforms asks tells answers Q) (hs : sink.Serves asks tells answers good)
    {s : σ} (hg : good s) :
    Q (x.run sink s).1 ∧ good (x.run sink s).2 := by
  induction x generalizing s with
  | done a => exact ⟨h, hg⟩
  | makeDirectory p next ih =>
    obtain ⟨hgood, hanswers⟩ := hs.makeDirectory p s h.1 hg
    exact ih _ (h.2 _ hanswers) hgood
  | write p content next ih =>
    obtain ⟨hgood, hanswers⟩ := hs.write p content s h.1.1 h.1.2 hg
    exact ih _ (h.2 _ hanswers) hgood
  | look p next ih => exact h.elim
  | note n next ih => exact ih h (hs.note n s hg)

/-- Whatever a plan that conforms has written on a store that serves it is a text of those. -/
theorem Plan.Conforms.tells_written {α σ : Type} {sink : Sink (StateM σ)} {asks : Path → Prop}
    {tells : String → Prop} {answers : Trouble → Prop} {good : σ → Prop} {Q : α → Prop}
    {x : Plan α} (h : x.Conforms asks tells answers Q) (hs : sink.Serves asks tells answers good)
    {s : σ} (hg : good s) {before calls : List Call}
    (hlog : ((x.run sink.recorded).run before s).1.2 = before ++ calls) :
    ∀ f ∈ Call.written calls, tells f.2 := by
  induction x generalizing before calls s with
  | done a =>
    obtain rfl : calls = [] := List.append_right_eq_self.1 hlog.symm
    exact List.forall_mem_nil _
  | makeDirectory p next ih =>
    obtain ⟨hgood, hanswers⟩ := hs.makeDirectory p s h.1 hg
    have hnext : (((next (sink.makeDirectory p s).1).run sink.recorded).run
        (before ++ [.makeDirectory p (sink.makeDirectory p s).1])
          (sink.makeDirectory p s).2).1.2 = before ++ calls := hlog
    obtain ⟨rest, rfl, hlater⟩ := exists_later hnext
    have hrest := ih _ (h.2 _ hanswers) hgood hlater
    exact hrest
  | write p content next ih =>
    obtain ⟨hgood, hanswers⟩ := hs.write p content s h.1.1 h.1.2 hg
    have hnext : (((next (sink.write p content s).1).run sink.recorded).run
        (before ++ [.write p content (sink.write p content s).1])
          (sink.write p content s).2).1.2 = before ++ calls := hlog
    obtain ⟨rest, rfl, hlater⟩ := exists_later hnext
    have hrest := ih _ (h.2 _ hanswers) hgood hlater
    cases (sink.write p content s).1 with
    | error t => exact hrest
    | ok u => exact List.forall_mem_cons.2 ⟨h.1.2, hrest⟩
  | look p next ih => exact h.elim
  | note n next ih => exact ih h (hs.note n s hg) hlog

variable {given : List String} {refusing : Prop}

/-- Trouble that a run over a well-formed model may be in: faults that speak in given texts
and, where the store is a file system, a null character in a path or a half in a text. -/
inductive Trouble.Bearable (given : List String) (refusing : Prop) : Trouble → Prop
  | fault {f : Fault} : Stems given f.message → Bearable given refusing (.fault f)
  | nullCharacter {shown : String} : refusing → (∃ t ∈ given, '\x00' ∈ t.toList) →
    Bearable given refusing (.refused shown .nullCharacter)
  | unencodable {shown : String} {why : Text.Unencodable} : refusing →
    (∃ t ∈ given, ¬ Text.Encodable t.toList) →
    Bearable given refusing (.refused shown (.unencodable why))

structure Report.Stems (given : List String) (r : Report) : Prop where
  generated : ∀ p ∈ r.generated, p.Stems given
  failures : ∀ f ∈ r.failures, UmlPress.Stems given f.place ∧ UmlPress.Stems given f.fault.message

namespace Report.Stems
variable {r s : Report}

theorem empty : ({} : Report).Stems given := ⟨nofun, nofun⟩

theorem append (hr : r.Stems given) (hs : s.Stems given) : (r ++ s).Stems given :=
  ⟨List.forall_mem_append.2 ⟨hr.generated, hs.generated⟩,
    List.forall_mem_append.2 ⟨hr.failures, hs.failures⟩⟩

theorem fail (h : r.Stems given) {place : String} {f : Fault} (hp : UmlPress.Stems given place)
    (hf : UmlPress.Stems given f.message) : (r.fail place f).Stems given :=
  ⟨h.generated, List.forall_mem_append.2 ⟨h.failures, List.forall_mem_singleton.2 ⟨hp, hf⟩⟩⟩

end Report.Stems

def Fine (given : List String) (refusing : Prop) : Except Trouble Report → Prop
  | .ok r => r.Stems given
  | .error t => t.Bearable given refusing

theorem stems_because {message reason : String} (hm : Stems given message)
    (hr : Stems given reason) : Stems given (because message reason) := by
  unfold because
  split
  · exact hm
  · exact (hm.append (.of_unsigned (by decide))).append hr

theorem stems_directory {shown reason : String} (hs : Stems given shown)
    (hr : Stems given reason) : Stems given (Fault.directory shown reason).message :=
  stems_because (.append (.of_unsigned (by decide)) hs) hr

theorem stems_file {shown reason : String} (hs : Stems given shown)
    (hr : Stems given reason) : Stems given (Fault.file shown reason).message :=
  stems_because (.append (.of_unsigned (by decide)) hs) hr

theorem stems_unresolved {source target : Json} (hs : source.IsTextOf (Stems given))
    (ht : target.IsTextOf (Stems given)) :
    Stems given (Fault.unresolved source target).message := by
  have hopening : Stems given "Relationship from '" := .of_unsigned (by decide)
  have hmiddle : Stems given "' references unknown element '" := .of_unsigned (by decide)
  have hclosing : Stems given "'" := .of_unsigned (by decide)
  exact (((hopening.append hs.display).append hmiddle).append ht.display).append
    hclosing

end UmlPress.Emit

namespace UmlPress.Snapshot
open Emit
variable {given : List String} {s : Snapshot} {e : Element} {P Q : String → Prop}

/-- The names on the way from an element to its owners are texts of the snapshot. -/
theorem Spoken.name_of_owner (h : s.Spoken P Q) {stop : Spot → Bool} {n : Nat}
    {owners : List Element} (ho : s.ownersUntil stop n e = some owners) :
    ∀ o ∈ owners, o.name.IsTextOf P := by
  intro o hmem
  obtain ⟨x, hx, rfl⟩ := mem_index_of_mem_ownersUntil ho o hmem
  exact (h.of_mem_index hx).name

theorem stems_displayPath (h : s.Spoken (Stems given) Q) (he : e.name.IsTextOf (Stems given))
    {place : String} (hp : s.displayPath e = .ok place) : Stems given place := by
  obtain ⟨owners, texts, ho, htexts, rfl⟩ := displayPath_eq_ok.1 hp
  refine .intercalate (.of_unsigned (by decide)) fun t ht => ?_
  have hmem : Json.text t ∈ owners.reverse.map Element.name ++ [e.name] := by
    rw [htexts]
    exact List.mem_map_of_mem ht
  have hname : (Json.text t).IsTextOf (Stems given) := by
    rcases List.mem_append.1 hmem with hmem | hmem
    · obtain ⟨o, ho', heq⟩ := List.mem_map.1 hmem
      rw [← heq]
      exact h.name_of_owner ho o (List.mem_reverse.1 ho')
    · rwa [List.mem_singleton.1 hmem]
  obtain ⟨u, heq, hu⟩ := hname
  cases heq
  exact hu

/-- What comes of looking up inherited elements speaks in the texts of the snapshot. -/
theorem of_targetsOf (h : s.Spoken (Stems given) Q) (he : e.name.IsTextOf (Stems given))
    {edges : List Edge} (hedges : ∀ edge ∈ edges, edge.target.IsTextOf (Stems given))
    {r : Except Fault (List Target)} (hr : s.targetsOf e edges = .ok r) :
    (∀ f, r = .error f → Stems given f.message) ∧
      ∀ ts, r = .ok ts → ∀ t ∈ ts, t.Speaks (Stems given) := by
  induction edges generalizing r with
  | nil =>
    cases hr
    exact ⟨by rintro f ⟨⟩, by rintro ts ⟨⟩; exact List.forall_mem_nil _⟩
  | cons edge rest ih =>
    obtain ⟨hedge, hrest⟩ := List.forall_mem_cons.1 hedges
    rw [targetsOf] at hr
    split at hr
    · obtain ⟨found, hfound, hr⟩ := bind_eq_ok.1 hr
      cases found with
      | none =>
        cases hr
        exact ⟨by rintro f ⟨⟩; exact stems_unresolved he hedge, by rintro ts ⟨⟩⟩
      | some spot =>
        obtain ⟨path, hpath, hr⟩ := bind_eq_ok.1 hr
        obtain ⟨later, hlater, hr⟩ := bind_eq_ok.1 hr
        cases hr
        obtain ⟨hfaults, hspeak⟩ := ih hrest hlater
        cases later with
        | error f => exact ⟨by rintro g ⟨⟩; exact hfaults f rfl, by rintro ts ⟨⟩⟩
        | ok ts =>
          refine ⟨by rintro f ⟨⟩, ?_⟩
          rintro _ ⟨⟩
          refine List.forall_mem_cons.2 ⟨?_, hspeak ts rfl⟩
          obtain ⟨x, hx, rfl⟩ := mem_index_of_find hfound
          have hname := (h.of_mem_index hx).name
          obtain ⟨owners, howners, rfl⟩ := map_eq_ok.1 hpath
          refine ⟨hname, List.forall_mem_append.2 ⟨?_, ?_⟩⟩
          · rw [List.forall_mem_map]
            intro o ho
            exact h.name_of_owner (ownersWithin_eq_ok.1 howners) o (List.mem_reverse.1 ho)
          · exact List.forall_mem_singleton.2 hname
    · exact ih hrest hr

end UmlPress.Snapshot

namespace UmlPress.Emit

/-- A run over a well-formed model whose names and ids, and whose options that stand in names
of files, are put together from given texts. All other texts that stand on its pages have no half
in them but given ones. -/
structure Workshop.Known (given : List String) (w : Workshop) : Prop where
  wellFormed : w.snapshot.WellFormed
  spoken : w.snapshot.Spoken (Stems given) (Whole given)
  stock : Workshop.directory? w.options = none
  namePrefix : Stems given w.options.namePrefix
  fileExtension : Stems given w.options.fileExtension
  initFileName : Stems given w.options.initFileName
  baseClass : Whole given w.options.baseClass

namespace Workshop
variable {given : List String} {refusing : Prop} {w : Workshop} {base full : Path}
  {supply : Supply} {e : Element}

namespace Known

theorem fileName (hw : w.Known given) (he : e.Spoken (Stems given) (Whole given)) :
    ∃ name, w.fileName e = .ok name ∧ Stems given name := by
  obtain ⟨name, hname⟩ := w.exists_typeName he.isTyped
  have hstems := Stems.typeName hw.namePrefix he.name hname
  exact ⟨_, map_eq_ok.2 ⟨name, hname, rfl⟩, hstems.append hw.fileExtension⟩

/-- What comes of a page: a fault that speaks in given texts, or a text without halves. -/
def Told (given : List String) : Except Trouble String → Prop
  | .ok text => Whole given text
  | .error t => ∃ f, t = .fault f ∧ Stems given f.message

/-- The page of a class fails on an inherited element that is missing, if at all. -/
theorem page_class (hw : w.Known given) {facts : Facts} {isInterface : Bool}
    {attributes : List Attribute} {operations : List Operation} {owned : List Element}
    (he : e = .node facts (.classifier isInterface attributes operations) owned)
    (hs : e.Spoken (Stems given) (Whole given)) :
    Told given (w.page (.ok none) supply (w.writeClass e)).1 := by
  obtain ⟨r, hr⟩ := hw.wellFormed.exists_targetsOf e hw.wellFormed.targets
  obtain ⟨hfaults, hspeak⟩ := Snapshot.of_targetsOf hw.spoken hs.name hw.spoken.targets hr
  cases r with
  | error f =>
    rw [page, writeClass, Composing.run_bind, run_targets,
      show w.snapshot.targets e = .ok (.error f) from hr]
    exact ⟨f, rfl, hfaults f rfl⟩
  | ok ts =>
    have hwhole : ∀ t ∈ ts, t.Speaks (Whole given) := fun t ht =>
      (hspeak ts rfl t ht).imp (·.mono fun _ => Stems.whole)
        fun h n hn => (h n hn).mono fun _ => Stems.whole
    obtain ⟨text, htext, htold⟩ := exists_page (completes_writeClass he hw.namePrefix.whole
      hw.baseClass (hs.name.mono fun _ => Stems.whole) hs.doc hs.shape hr hwhole) supply
    rw [htext]
    exact htold

theorem page_enum (hs : e.Spoken (Stems given) (Whole given)) {facts : Facts} {ls : List Json}
    {owned : List Element} (he : e = .node facts (.enumeration ls) owned) :
    Told given (w.page (.ok none) supply (w.writeEnum e)).1 := by
  obtain ⟨text, htext, htold⟩ := exists_page (w := w) (completes_writeEnum he
    (hs.name.mono fun _ => Stems.whole) hs.doc hs.shape) supply
  rw [htext]
  exact htold

/-- An element writes its page, if it has one, to the file that its name leads to. -/
theorem conforms_emitFile (hw : w.Known given) (hbase : base.Stems given)
    (he : e.Spoken (Stems given) (Whole given)) {compose : Composing Unit}
    (hpage : Told given (w.page (.ok none) supply compose).1) :
    (w.emitFile base supply e compose).Conforms (Path.Stems given) (Whole given)
      (Trouble.Bearable given refusing) fun a => Fine given refusing a.1 := by
  obtain ⟨name, hname, hstems⟩ := hw.fileName he
  unfold emitFile looking
  rw [hw.stock]
  dsimp only
  rw [Plan.conforms_noteAll]
  cases hcontent : (w.page (.ok none) supply compose).1 with
  | error t =>
    rw [hcontent] at hpage
    obtain ⟨f, rfl, hf⟩ := hpage
    exact .fault hf
  | ok text =>
    rw [hcontent] at hpage
    rw [hname]
    have hchild := Path.stems_child hbase hstems
    refine ⟨⟨hchild, hpage⟩, fun answer hanswer => ?_⟩
    cases answer with
    | error t => exact hanswer t rfl
    | ok made => exact ⟨List.forall_mem_singleton.2 hchild, nofun⟩

theorem conforms_emitOwned (hw : w.Known given) {es : List Element} {report : Report}
    (hreport : report.Stems given) (hes : ∀ e ∈ es, e.Spoken (Stems given) (Whole given))
    (ih : ∀ e ∈ es, ∀ supply, (w.emit full supply e).Conforms (Path.Stems given) (Whole given)
      (Trouble.Bearable given refusing) fun a => Fine given refusing a.1) :
    (w.emitOwned full supply report es).Conforms (Path.Stems given) (Whole given)
      (Trouble.Bearable given refusing) fun a => Fine given refusing a.1 := by
  induction es generalizing supply report with
  | nil => exact hreport
  | cons e r ihr =>
    obtain ⟨he, hr⟩ := List.forall_mem_cons.1 hes
    have hrest {supply : Supply} {report : Report} (hreport : report.Stems given) :
        (w.emitOwned full supply report r).Conforms (Path.Stems given) (Whole given)
          (Trouble.Bearable given refusing) fun a => Fine given refusing a.1 :=
      ihr hreport hr fun e he => ih e (List.mem_cons_of_mem _ he)
    obtain ⟨place, hplace⟩ := hw.wellFormed.exists_displayPath he.name.isText
    rw [emitOwned]
    refine (ih e List.mem_cons_self supply).bind ?_
    rintro ⟨result, supply'⟩ hfine
    rcases result with t | more
    · cases hfine with
      | fault hf =>
        dsimp only
        rw [hplace]
        exact hrest (hreport.fail (Snapshot.stems_displayPath hw.spoken he.name hplace) hf)
      | nullCharacter hrefusing hgiven => exact .nullCharacter hrefusing hgiven
      | unencodable hrefusing hgiven => exact .unencodable hrefusing hgiven
    · exact hrest (hreport.append hfine)

theorem conforms_emit (hw : w.Known given) (hbase : base.Stems given)
    (he : e.Spoken (Stems given) (Whole given)) :
    (w.emit base supply e).Conforms (Path.Stems given) (Whole given)
      (Trouble.Bearable given refusing) fun a => Fine given refusing a.1 := by
  induction e generalizing base supply with
  | node facts shape owned ih =>
    cases shape with
    | package =>
      obtain ⟨name, hname, hstems⟩ := he.name
      have hfull := Path.stems_child hbase hstems
      have hmarker := Path.stems_child hfull hw.initFileName
      rw [emit, show facts.name = .text name from hname, packagePath]
      refine ⟨hfull, fun made hmade => ?_⟩
      rcases made with t | ⟨⟨⟩⟩
      · exact hmade t rfl
      · refine ⟨⟨hmarker, .of_encodable (by decide)⟩, fun marked hmarked => ?_⟩
        rcases marked with t | ⟨⟨⟩⟩
        · exact hmarked t rfl
        · exact hw.conforms_emitOwned ⟨List.forall_mem_singleton.2 hmarker, nofun⟩ he.owned
            fun e hmem supply => ih e hmem hfull (he.owned e hmem)
    | classifier isInterface attributes operations =>
      rw [emit]
      exact hw.conforms_emitFile hbase he (hw.page_class rfl he)
    | enumeration literals =>
      rw [emit]
      exact hw.conforms_emitFile hbase he (page_enum he rfl)
    | other type =>
      rw [emit]
      exact .empty
    | unsupported =>
      rw [emit]
      exact .fault (.of_unsigned (by decide))

/-- Emitting the base of a known model conforms, and so does the report on it. -/
theorem conforms_run (hw : w.Known given) {out : Path} (hout : out.Stems given) :
    (w.run out).Conforms (Path.Stems given) (Whole given) (Trouble.Bearable given refusing)
      (Fine given refusing) := by
  obtain ⟨x, hx, hbase⟩ := hw.wellFormed.base
  have he := hw.spoken.of_mem_index hx
  rw [hbase] at he
  obtain ⟨place, hplace⟩ := hw.wellFormed.exists_displayPath he.name.isText
  unfold run
  refine (hw.conforms_emit hout he).bind ?_
  rintro ⟨result, supply⟩ hfine
  rcases result with t | report
  · cases hfine with
    | fault hf =>
      dsimp only
      rw [hplace]
      exact Report.Stems.empty.fail (Snapshot.stems_displayPath hw.spoken he.name hplace) hf
    | nullCharacter hrefusing hgiven => exact .nullCharacter hrefusing hgiven
    | unencodable hrefusing hgiven => exact .unencodable hrefusing hgiven
  · exact hfine

end Known
end Workshop

def Ended (given : List String) (refusing : Prop) (o : Options) (r : Except Trouble Report) :
    Prop :=
  Fine given refusing r ∨ ∃ f, o.checkIndent = .error f ∧ r = .error (.misuse f)

theorem conforms_generate {s : Snapshot} {o : Options} (hw : Workshop.Known given ⟨s, o⟩)
    {out : Path} (hout : out.Stems given) :
    (generate s o out).Conforms (Path.Stems given) (Whole given) (Trouble.Bearable given refusing)
      (Ended given refusing o) := by
  rw [generate_eq]
  split
  · exact .inr ⟨_, ‹_›, rfl⟩
  · exact (hw.conforms_run hout).mono fun _ => .inl

end UmlPress.Emit
