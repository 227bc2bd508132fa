import UmlPress.Command.Run
import UmlPress.Proofs.Encoding
import UmlPress.Proofs.LongIntegers

/-!
# How loading may end

A document that is asked from one source is given, or is missing, or there is an error
of loading that says why it could not be had. This is so unless the bytes of a file are
no text, the file system does not say whether there is something at its path, a number in the
document is too long to be read, an address has a host that cannot be, or a failure has no
status to be told.
-/
namespace UmlPress.Source

inductive Origin where
  | file (path : Path)
  | address (name : String)

namespace Origin

def name : Origin → String
  | .file path => path.text
  | .address name => name

def of? (file address : Option String) : Option Origin :=
  match given file, given address with
  | some name, none => some (.file (.ofString name))
  | none, some name => some (.address name)
  | _, _ => none

def IsMissing (d : Disk) : Origin → Prop
  | .file path => ∃ r, d.status path = .error r ∧ r.isAbsent = true
  | .address _ => False

end Origin

variable {file address : Option String} {d : Disk} {path : Path} {reply : Reply} {o : Origin}
  {content : Content} {cs : List Char} {f : Fault}

def Fault.isLoading : Fault → Bool
  | .noSource | .twoSources | .badForm .. | .unreadable .. | .invalidAddress _ | .timeout _
  | .noConnection _ | .status .. | .badReply .. | .failed .. | .notObject _ => true
  | .notFound _ | .undecodable _ | .longInteger _ | .badAddress _ | .unaskable ..
  | .misuse _ => false

/-- A command that loads a document tells of the errors of loading and of a missing file, and
is ended by any other fault. -/
theorem isLoading_or_notFound_iff : (f.isLoading = true ∨ ∃ path, f = .notFound path) ↔
    ∃ message fromInside, Command.failSource f = .failed message fromInside := by
  cases f <;> simp [Fault.isLoading, Command.failSource]

/-- The ends of loading that are told to callers. -/
inductive Foreseen (d : Disk) (o : Origin) : Except Fault Loaded → Prop
  | loaded (h : ¬o.IsMissing d) (document : Entries) : Foreseen d o (.ok ⟨o.name, document⟩)
  | missing (h : o.IsMissing d) (path : Path) (hpath : o = .file path) :
      Foreseen d o (.error (.notFound path))
  | refused (h : ¬o.IsMissing d) {f : Fault} (hf : f.isLoading = true) : Foreseen d o (.error f)

def HoldsLongInteger (cs : List Char) : Prop := ∃ f, Json.parse cs = .error f ∧ f.isForm = false

theorem HoldsLongInteger.hasLongRun (h : HoldsLongInteger cs) : Json.Reader.HasLongRun cs :=
  let ⟨_, hf, hlong⟩ := h
  Json.hasLongRun_of_parse hf hlong

def IsText : Content → Prop
  | .text _ => True
  | .bytes bs => ∃ cs : List Char, cs.flatMap String.utf8EncodeChar = bs

/-- A failure has a status, and the body of a reply is read without a long number in it. -/
def Reply.IsOrdinary : Reply → Prop
  | .response code body => 400 ≤ code ∧ code < 600 ∨ ¬HoldsLongInteger (bodyText body)
  | .noStatus => False
  | .timeout | .noConnection _ | .failed _ => True

def Origin.IsOrdinary (d : Disk) (reply : Reply) : Origin → Prop
  | .file path =>
    (∀ r, d.status path = .error r → r.isAbsent = true) ∧
    ∀ content, d.status path = .ok (.file content) →
      IsText content ∧ ∀ cs, content.read = .ok cs → ¬HoldsLongInteger cs
  | .address name =>
    ∃ a, Address.parse name.toList = .ok a ∧ (a.isComplete = true → reply.IsOrdinary)

theorem exists_read_iff : (∃ cs, content.read = .ok cs) ↔ IsText content := by
  cases content with
  | text s => exact iff_of_true ⟨_, rfl⟩ trivial
  | bytes bs =>
    constructor
    · rintro ⟨cs, h⟩
      obtain ⟨raw, hraw, -⟩ := map_eq_ok.1 h
      exact ⟨raw, Text.Utf8.decode_eq_ok.1 hraw⟩
    · rintro ⟨raw, h⟩
      exact ⟨_, map_eq_ok.2 ⟨raw, Text.Utf8.decode_eq_ok.2 h, rfl⟩⟩

/-! ## The end of a computation that keeps notes -/

def Ends {α : Type} (x : Loading α) (r : Except Fault α) : Prop :=
  ∀ notes, (StateT.run (ExceptT.run x) notes).1 = r

section
variable {α β : Type} {x : Loading α} {r : Except Fault α}

theorem ends_pure (a : α) : Ends (pure a) (.ok a) := fun _ => rfl

theorem ends_throw (f : Fault) : Ends (throw f : Loading α) (.error f) := fun _ => rfl

theorem ends_giveUp (text : String) (f : Fault) : Ends (giveUp text f : Loading α) (.error f) :=
  fun _ => rfl

theorem ends_note (n : Note) : Ends (Noted.note n) (.ok ()) := fun _ => rfl

theorem run_bind (x : Loading α) (g : α → Loading β) (notes : List Note) :
    StateT.run (ExceptT.run (x >>= g)) notes = match StateT.run (ExceptT.run x) notes with
      | (.ok a, notes) => StateT.run (ExceptT.run (g a)) notes
      | (.error f, notes) => (.error f, notes) := by
  change StateT.run (ExceptT.run x >>= ExceptT.bindCont g) notes = _
  rw [StateT.run_bind]
  generalize StateT.run (ExceptT.run x) notes = y
  obtain ⟨f | a, notes'⟩ := y <;> rfl

theorem Ends.bind {a : α} {g : α → Loading β} {r : Except Fault β} (hx : Ends x (.ok a))
    (hg : Ends (g a) r) : Ends (x >>= g) r := by
  intro notes
  have h := hx notes
  rw [run_bind]
  generalize StateT.run (ExceptT.run x) notes = y at h ⊢
  obtain ⟨e, notes'⟩ := y
  cases h
  exact hg notes'

theorem Ends.bind_error {f : Fault} {g : α → Loading β} (hx : Ends x (.error f)) :
    Ends (x >>= g) (.error f) := by
  intro notes
  have h := hx notes
  rw [run_bind]
  generalize StateT.run (ExceptT.run x) notes = y at h ⊢
  obtain ⟨e, notes'⟩ := y
  cases h
  rfl

end

theorem ends_requireObject (source : String) (v : Json) :
    (∃ es, Ends (requireObject source v) (.ok ⟨source, es⟩)) ∨
      Ends (requireObject source v) (.error (.notObject source)) := by
  cases v with
  | object es => exact .inl ⟨es, ends_pure _⟩
  | _ => exact .inr (ends_giveUp _ _)

def ForeseenIff (d : Disk) (o : Origin) (x : Loading Loaded) (ordinary : Prop) : Prop :=
  ∃ r, Ends x r ∧ (Foreseen d o r ↔ ordinary)

section
variable {x : Loading Loaded} {ordinary : Prop}

theorem ForeseenIff.refused (hx : Ends x (.error f)) (hf : f.isLoading = true)
    (hm : ¬o.IsMissing d) (h : ordinary) : ForeseenIff d o x ordinary :=
  ⟨_, hx, iff_of_true (.refused hm hf) h⟩

theorem ForeseenIff.escaped (hx : Ends x (.error f)) (hf : f.isLoading = false)
    (hfound : ∀ path, f ≠ .notFound path) (h : ¬ordinary) : ForeseenIff d o x ordinary := by
  refine ⟨_, hx, iff_of_false ?_ h⟩
  rintro (_ | ⟨-, path, -⟩ | ⟨-, hf'⟩)
  · exact hfound path rfl
  · exact absurd hf' (by rw [hf]; decide)

theorem ForeseenIff.congr {ordinary' : Prop} (h : ForeseenIff d o x ordinary')
    (heq : ordinary ↔ ordinary') : ForeseenIff d o x ordinary := propext heq ▸ h

theorem ForeseenIff.after {g : Loading Unit} (h : ForeseenIff d o x ordinary)
    (hg : Ends g (.ok ())) : ForeseenIff d o (do g; x) ordinary :=
  ⟨h.choose, hg.bind h.choose_spec.1, h.choose_spec.2⟩

end

structure ReadsText (cs : List Char) (refuse : Json.Fault → Fault) (x : Loading Json) :
    Prop where
  value : ∀ v, Json.parse cs = .ok v → Ends x (.ok v)
  fault : ∀ f, Json.parse cs = .error f →
    Ends x (.error (if f.isForm then refuse f else .longInteger f))

/-- The value of a text is the document or is refused. -/
theorem ReadsText.foreseen {refuse : Json.Fault → Fault} {x : Loading Json} {g : Loading Unit}
    (hx : ReadsText cs refuse x) (hrefuse : ∀ f, (refuse f).isLoading = true)
    (hm : ¬o.IsMissing d) (hg : Ends g (.ok ())) :
    ForeseenIff d o (do let v ← x; g; requireObject o.name v) (¬HoldsLongInteger cs) := by
  cases hv : Json.parse cs with
  | ok v =>
    have hshort : ¬HoldsLongInteger cs := by
      rintro ⟨f, hf, -⟩
      rw [hv] at hf
      cases hf
    obtain ⟨es, h⟩ | h := ends_requireObject o.name v
    · exact ⟨_, (hx.value v hv).bind (hg.bind h), iff_of_true (.loaded hm es) hshort⟩
    · exact .refused ((hx.value v hv).bind (hg.bind h)) rfl hm hshort
  | error fault =>
    have hend := hx.fault fault hv
    cases hform : fault.isForm with
    | true =>
      rw [if_pos hform] at hend
      refine .refused hend.bind_error (hrefuse fault) hm ?_
      rintro ⟨f, hf, hlong⟩
      cases Except.error.inj (hv.symm.trans hf)
      exact Bool.noConfusion (hform.symm.trans hlong)
    | false =>
      rw [if_neg (by rw [hform]; decide)] at hend
      exact .escaped hend.bind_error rfl nofun fun h => h ⟨fault, hv, hform⟩

theorem readsText_ofContent (h : content.read = .ok cs) :
    ReadsText cs (.badForm path) (ofContent path content) := by
  rw [ofContent, h]
  dsimp only
  refine ⟨fun v hv => ?_, fun f hf => ?_⟩
  · rw [hv]
    exact ends_pure v
  · rw [hf]
    dsimp only
    split
    · exact ends_giveUp _ _
    · exact ends_throw _

theorem ends_ofContent_undecodable {fault : Text.Utf8.Fault} (h : content.read = .error fault) :
    Ends (ofContent path content) (.error (.undecodable fault)) := by
  rw [ofContent, h]
  exact ends_throw _

/-- A file is warned of, or not, before it is read. -/
theorem ForeseenIff.warned {c : Prop} [Decidable c] {text : String} {g : Unit → Loading Loaded}
    {ordinary : Prop} (h : ForeseenIff d o (g ()) ordinary) :
    ForeseenIff d o (if c then warn text >>= g else g ()) ordinary := by
  obtain ⟨r, hr, hiff⟩ := h
  refine ⟨r, ?_, hiff⟩
  split
  · exact (ends_note _).bind hr
  · exact hr

/-- What is found at a path that leads somewhere. -/
theorem foreseen_fromItem {item : Item} (hs : d.status path = .ok item) :
    ForeseenIff d (.file path) (fromFile path (.ok item))
      ((Origin.file path).IsOrdinary d reply) := by
  have hm : ¬(Origin.file path).IsMissing d := by
    rintro ⟨r, h, -⟩
    rw [hs] at h
    cases h
  have hordinary : (Origin.file path).IsOrdinary d reply ↔ ∀ content, item = .file content →
      IsText content ∧ ∀ cs, content.read = .ok cs → ¬HoldsLongInteger cs := by
    rw [Origin.IsOrdinary, hs]
    simp only [reduceCtorEq, false_implies, implies_true, true_and, Except.ok.injEq]
  refine .congr (.after (.warned ?_) (ends_note _)) hordinary
  cases item with
  | directory => exact .refused (ends_giveUp _ _) rfl hm nofun
  | file content =>
    cases hread : content.read with
    | error fault =>
      refine .escaped (ends_ofContent_undecodable hread).bind_error rfl nofun fun h => ?_
      obtain ⟨cs, h⟩ := exists_read_iff.2 (h content rfl).1
      exact nomatch hread.symm.trans h
    | ok cs =>
      refine .congr ((readsText_ofContent hread).foreseen (fun _ => rfl) hm (ends_note _)) ?_
      constructor
      · exact fun h => (h content rfl).2 cs hread
      · rintro h _ ⟨⟩
        refine ⟨exists_read_iff.1 ⟨cs, hread⟩, fun cs' h' => ?_⟩
        cases hread.symm.trans h'
        exact h

theorem foreseen_fromFile (d : Disk) (reply : Reply) (path : Path) :
    ForeseenIff d (.file path) (fromFile path (d.status path))
      ((Origin.file path).IsOrdinary d reply) := by
  cases hs : d.status path with
  | ok item => exact foreseen_fromItem hs
  | error refusal =>
    refine .after ?_ (ends_note _)
    dsimp only
    cases habsent : refusal.isAbsent with
    | true =>
      have hm : (Origin.file path).IsMissing d := ⟨refusal, hs, habsent⟩
      have hordinary : (Origin.file path).IsOrdinary d reply := by
        refine ⟨fun r h => ?_, fun content h => nomatch hs.symm.trans h⟩
        cases hs.symm.trans h
        exact habsent
      exact ⟨_, ends_giveUp _ _, iff_of_true (.missing hm path rfl) hordinary⟩
    | false =>
      refine .escaped (ends_throw _) rfl nofun fun h => ?_
      rw [h.1 refusal hs] at habsent
      cases habsent

/-! ## Documents of addresses -/

theorem readsText_ofReply {code : Int} {body : List UInt8} {address : String}
    (h : ¬(400 ≤ code ∧ code < 600)) :
    ReadsText (bodyText body) (.badReply address) (ofReply address (.response code body)) := by
  rw [ofReply, if_neg h]
  refine ⟨fun v hv => ?_, fun f hf => ?_⟩
  · rw [hv]
    exact ends_pure v
  · rw [hf]
    dsimp only
    split
    · exact ends_giveUp _ _
    · exact ends_throw _

theorem foreseen_fromReply (d : Disk) (reply : Reply) (address : String) :
    ForeseenIff d (.address address) (fromReply address reply) reply.IsOrdinary := by
  have hm : ¬(Origin.address address).IsMissing d := id
  cases reply with
  | noStatus => exact .escaped (ends_throw _).bind_error rfl nofun id
  | response code body =>
    by_cases hcode : 400 ≤ code ∧ code < 600
    · refine .refused (f := .status code address) (Ends.bind_error ?_) rfl hm (.inl hcode)
      rw [ofReply, if_pos hcode]
      exact ends_giveUp _ _
    · exact .congr ((readsText_ofReply hcode).foreseen (fun _ => rfl) hm (ends_note _))
        (or_iff_right hcode)
  | _ => exact .refused (ends_giveUp _ _).bind_error rfl hm trivial

theorem foreseen_fromAddress (d : Disk) (reply : Reply) (address : String) :
    ForeseenIff d (.address address) (fromAddress address reply)
      ((Origin.address address).IsOrdinary d reply) := by
  have hm : ¬(Origin.address address).IsMissing d := id
  rw [fromAddress]
  unfold checkAddress
  cases ha : Address.parse address.toList with
  | error fault =>
    refine .escaped (Ends.bind_error ((ends_note _).bind (ends_throw _))) rfl nofun ?_
    rintro ⟨a, h, -⟩
    exact nomatch ha.symm.trans h
  | ok a =>
    have hordinary : (Origin.address address).IsOrdinary d reply ↔
        (a.isComplete = true → reply.IsOrdinary) := by
      refine ⟨?_, fun h => ⟨a, ha, h⟩⟩
      rintro ⟨a', h', h⟩
      cases ha.symm.trans h'
      exact h
    refine .congr ?_ hordinary
    cases hc : a.isComplete with
    | false =>
      refine .refused (f := .invalidAddress address) (Ends.bind_error ((ends_note _).bind ?_))
        rfl hm nofun
      dsimp only
      rw [hc]
      exact ends_giveUp _ _
    | true =>
      refine .congr (.after (foreseen_fromReply d reply address) ((ends_note _).bind ?_))
        (forall_prop_of_true rfl)
      dsimp only
      rw [hc]
      exact ends_pure ()

/-- A document is found, or found missing, or there is an error of loading, if and only if
its origin is an ordinary one. -/
theorem foreseen_load_iff (h : Origin.of? file address = some o) (d : Disk) (reply : Reply) :
    Foreseen d o (load file address d.status reply).run.1 ↔ o.IsOrdinary d reply := by
  have hload : ForeseenIff d o (load file address d.status reply) (o.IsOrdinary d reply) := by
    rw [load]
    unfold Origin.of? at h
    split at h
    · rename_i name hfile haddress
      cases h
      rw [hfile, haddress]
      exact foreseen_fromFile d reply (.ofString name)
    · rename_i name hfile haddress
      cases h
      rw [hfile, haddress]
      exact foreseen_fromAddress d reply name
    · cases h
  obtain ⟨r, hr, hiff⟩ := hload
  rw [← hiff, ← hr []]
  rfl

/-- An address that the server knows no document of. -/
theorem foreseen_load_unknown :
    Foreseen {} (.address "http://host/m.mdj")
      (load none (some "http://host/m.mdj") (Disk.status {}) (.response 404 [])).run.1 :=
  (foreseen_load_iff rfl {} (.response 404 [])).2
    ⟨⟨"http".toList, "host".toList⟩, rfl, fun _ => .inl ⟨by decide, by decide⟩⟩

def garbledDisk : Disk where
  entries := [(["m.mdj"], .file (.bytes [0xff]))]

/-- A file of one byte that no character starts with is not refused: the fault of the decoder
comes out as it is. -/
theorem undecodable_unforeseen :
    (load (some "m.mdj") none garbledDisk.status .timeout).run.1 =
      .error (.undecodable ⟨0, 1, 0xff, .invalidStart⟩) ∧
    Command.failSource (.undecodable ⟨0, 1, 0xff, .invalidStart⟩) =
      .halt (.source (.undecodable ⟨0, 1, 0xff, .invalidStart⟩)) ∧
    ¬Foreseen garbledDisk (.file (.ofString "m.mdj"))
      (load (some "m.mdj") none garbledDisk.status .timeout).run.1 := by
  have hstatus : garbledDisk.status (.ofString "m.mdj") = .ok (.file (.bytes [0xff])) := by
    unfold Disk.status Disk.resolve
    rw [String.contains_char_eq, if_neg (by decide +kernel), if_neg (by decide +kernel)]
    rfl
  have hload : (load (some "m.mdj") none garbledDisk.status .timeout).run.1 =
      .error (.undecodable ⟨0, 1, 0xff, .invalidStart⟩) := by
    change (fromFile (.ofString "m.mdj") (garbledDisk.status (.ofString "m.mdj"))).run.1 = _
    rw [hstatus]
    rfl
  refine ⟨hload, rfl, ?_⟩
  rw [hload]
  rintro (_ | _ | ⟨-, ⟨⟩⟩)

end UmlPress.Source
