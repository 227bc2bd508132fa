import UmlPress.Proofs.Plain
import UmlPress.Proofs.Strict

/-!
# A file system that mirrors a store in memory

Below an output directory a file system holds the same directories and files as
a strict store in memory, as long as both are asked for the same things and everything
is put into directories that were made before. Elsewhere the file system stays as
it was.
-/
namespace UmlPress

namespace Disk
variable {d d' : Disk} {above names top place : List String}

structure Extends (d d' : Disk) : Prop where
  here : d'.here = d.here
  nameLimit : d'.nameLimit = d.nameLimit
  pathLimit : d'.pathLimit = d.pathLimit
  closed : d'.closed = d.closed
  directory : ∀ names, d.get? names = some .directory → d'.get? names = some .directory

theorem Extends.refl (d : Disk) : d.Extends d := ⟨rfl, rfl, rfl, rfl, fun _ h => h⟩

theorem Extends.trans {d'' : Disk} (h : d.Extends d') (h' : d'.Extends d'') : d.Extends d'' where
  here := h'.here.trans h.here
  nameLimit := h'.nameLimit.trans h.nameLimit
  pathLimit := h'.pathLimit.trans h.pathLimit
  closed := h'.closed.trans h.closed
  directory names hd := h'.directory names (h.directory names hd)

def set (d : Disk) (names : List String) (item : Item) : Disk :=
  { d with entries := Keyed.put names item d.entries }

theorem get?_set (hne : names ≠ []) (item : Item) (other : List String) :
    (d.set names item).get? other = if names = other then some item else d.get? other := by
  by_cases ho : other = []
  · subst ho
    simp [get?, hne]
  · simp [get?, set, ho, Keyed.get?_put]

theorem get?_set_below {below : List String} (hne : below ≠ []) (item : Item)
    (other : List String) : (d.set (top ++ below) item).get? (top ++ other) =
      if below = other then some item else d.get? (top ++ other) := by
  rw [get?_set (by simp [hne])]
  simp only [List.append_cancel_left_eq]

/-- To put a directory, or anything where no directory is, extends a file system. -/
theorem extends_set (hne : names ≠ []) {item : Item}
    (h : item = .directory ∨ d.get? names ≠ some .directory) : d.Extends (d.set names item) where
  here := rfl
  nameLimit := rfl
  pathLimit := rfl
  closed := rfl
  directory other ho := by
    rw [get?_set hne]
    split
    · rename_i heq
      rcases h with rfl | h
      · rfl
      · rw [heq] at h
        exact absurd ho h
    · exact ho

theorem follow_append (d : Disk) (above xs ys : List String) :
    d.follow above (xs ++ ys) = (d.follow above xs).bind (d.follow · ys) := by
  induction xs generalizing above with
  | nil => rfl
  | cons n r ih =>
    rw [List.cons_append, follow, follow]
    cases d.descend above n with
    | error e => rfl
    | ok next => exact ih next

theorem descend_of_extends (h : d.Extends d') {name : String}
    (hf : d.descend above name = .ok names) : d'.descend above name = .ok names := by
  unfold descend at hf ⊢
  cases hg : d.get? above with
  | none => simp [hg] at hf
  | some item =>
    cases item with
    | file c => simp [hg] at hf
    | directory =>
      rw [hg] at hf
      rw [h.directory above hg, h.closed, h.nameLimit]
      exact hf

/-- A path that leads somewhere leads there after directories were added. -/
theorem follow_of_extends (h : d.Extends d') (hf : d.follow above names = .ok place) :
    d'.follow above names = .ok place := by
  induction names generalizing above with
  | nil => exact hf
  | cons n r ih =>
    rw [follow] at hf ⊢
    cases hd : d.descend above n with
    | error e =>
      rw [hd] at hf
      cases hf
    | ok next =>
      rw [hd] at hf
      rw [descend_of_extends h hd]
      exact ih hf

theorem resolve_of_extends (h : d.Extends d') {p : Path} (hr : d.resolve p = .ok place) :
    d'.resolve p = .ok place := by
  obtain ⟨hspell, hnull, hlong, hfollow⟩ := resolve_eq_ok.1 hr
  refine resolve_eq_ok.2 ⟨hspell, hnull, by rwa [h.pathLimit], ?_⟩
  rw [h.here]
  exact follow_of_extends h hfollow

def IsOpen (d : Disk) (top place : List String) : Prop :=
  d.follow top place = .ok (top ++ place) ∧ d.get? (top ++ place) = some .directory

theorem IsOpen.extends (h : d.IsOpen top place) (he : d.Extends d') : d'.IsOpen top place :=
  ⟨follow_of_extends he h.1, he.directory _ h.2⟩

theorem IsOpen.follow_child (h : d.IsOpen top place) {name : String} (hc : d.closed = [])
    (hp : Path.IsPlain name) (hs : Text.nameSize name.toList ≤ d.nameLimit) :
    d.follow top (place ++ [name]) = .ok (top ++ (place ++ [name])) := by
  obtain ⟨-, -, hdots, -⟩ := hp
  have hopen : top ++ place ∉ d.closed := by simp [hc]
  rw [follow_append, h.1]
  show (d.descend (top ++ place) name).bind _ = _
  rw [descend, h.2]
  dsimp only
  rw [if_neg hopen, if_neg hdots, if_neg (Nat.not_lt.2 hs), List.append_assoc]
  rfl

/-- Names are plain and short enough to be put below a path, bytes can be made of them, and
every directory may be searched. -/
structure Admits (d : Disk) (out : Path) (names : List String) : Prop where
  searched : d.closed = []
  plain : ∀ name ∈ names, Path.IsPlain name
  encodable : ∀ name ∈ names, Text.Encodable name.toList
  short : ∀ name ∈ names, Text.nameSize name.toList ≤ d.nameLimit
  fits : Text.nameSize (out.below names).text.toList ≤ d.pathLimit

theorem Admits.extends {out : Path} (h : d.Admits out names) (he : d.Extends d') :
    d'.Admits out names :=
  ⟨by rw [he.closed]; exact h.searched, h.plain, h.encodable,
    by rw [he.nameLimit]; exact h.short, by rw [he.pathLimit]; exact h.fits⟩

/-- A name without halves stands in a directory as it is. -/
theorem spelled_of_encodable {name : String} (h : Text.Encodable name.toList) :
    spelled name = name := by
  have hno : name.toList.any Text.isHalf = false := by
    rw [List.any_eq_false]
    intro c hc
    rw [h c hc]
    exact Bool.false_ne_true
  rw [spelled, Text.Utf8.spelled, hno, if_neg Bool.false_ne_true, String.ofList_toList]

/-- A path leads on from where it leads to, if the names below it are admitted. -/
theorem resolve_of_admits {out : Path} (hr : d.resolve out = .ok top) (hne : names ≠ [])
    (ha : d.Admits out names) (hf : d.follow top names = .ok place) :
    d.resolve (out.below names) = .ok place := by
  have hmem {c : Char} (h : c ∈ (out.below names).text.toList) := Path.mem_text_below h hne
  obtain ⟨hspell, hnull, -, hfollow⟩ := resolve_eq_ok.1 hr
  rw [Text.unspellable?_eq_none_iff] at hspell
  have hnames : names.map spelled = names :=
    (List.map_congr_left fun n hn => spelled_of_encodable (ha.encodable n hn)).trans
      (List.map_id names)
  refine resolve_eq_ok.2 ⟨Text.unspellable?_eq_none_iff.2 fun c hc hhalf => ?_, fun h => ?_,
    ha.fits, ?_⟩
  · rcases hmem hc with h | rfl | ⟨n, hn, h⟩
    · exact hspell c h hhalf
    · cases hhalf
    · rw [ha.encodable n hn c h] at hhalf
      cases hhalf
  · rcases hmem h with h | h | ⟨n, hn, h⟩
    · exact hnull h
    · cases h
    · exact (ha.plain n hn).2.2.2.2 h
  · show d.follow (if out.root = .none then d.here else []) ((out.parts ++ names).map spelled) = _
    rw [List.map_append, hnames, follow_append, hfollow]
    exact hf

/-- A path to a name in an open directory leads there. -/
theorem resolve_below {out : Path} {name : String} (hr : d.resolve out = .ok top)
    (ho : d.IsOpen top place) (ha : d.Admits out (place ++ [name])) :
    d.resolve (out.below (place ++ [name])) = .ok (top ++ (place ++ [name])) := by
  have hmem : name ∈ place ++ [name] := by simp
  exact resolve_of_admits hr (by simp) ha
    (ho.follow_child ha.searched (ha.plain name hmem) (ha.short name hmem))

section
variable {p : Path}

theorem makeDirectory_of_some (hr : d.resolve p = .ok names) {item : Item}
    (hg : d.get? names = some item) : d.makeDirectory p = .error .alreadyThere := by
  rw [makeDirectory, hr]
  simp only [bind, Except.bind, hg]

theorem makeDirectory_of_none (hr : d.resolve p = .ok names) (hg : d.get? names = none) :
    d.makeDirectory p = .ok (d.set names .directory) := by
  rw [makeDirectory, hr]
  simp only [bind, Except.bind, hg, set]

theorem fill_of_directory (hr : d.resolve p = .ok names) (hg : d.get? names = some .directory)
    {content : String} : d.fill p content = .error .isDirectory := by
  rw [fill, hr]
  simp only [bind, Except.bind, hg]

theorem fill_of_not_directory (hr : d.resolve p = .ok names)
    (hg : d.get? names ≠ some .directory) {content : String} :
    d.fill p content = .ok (d.set names (.file (.text content))) := by
  rw [fill, hr]
  simp only [bind, Except.bind, set]

/-- A refusal to fill a file is one to write it, whatever the content. -/
theorem write_of_fill_error {content : String} {r : Refusal}
    (h : ∀ content, d.fill p content = .error r) : d.write p content = (.error r, d) := by
  unfold write
  rw [h, h]
  cases Text.unencodable? content.toList <;> rfl

theorem write_of_encodable {content : String} (h : Text.Encodable content.toList) :
    d.write p content = Emit.Sink.stepped d (d.fill p content) := by
  unfold write
  rw [Text.unencodable?_eq_none_iff.2 h]
  cases d.fill p content <;> rfl

theorem write_of_unencodable {content : String} {why : Text.Unencodable}
    (h : Text.unencodable? content.toList = some why) {d' : Disk} (hf : d.fill p "" = .ok d') :
    d.write p content = (.error (.unencodable why), d') := by
  unfold write
  rw [h, hf]

end

end Disk

/-- Below a directory a file system has what a store in memory has, and nothing
else; elsewhere it has what it had before. -/
structure Mirrors (out : Path) (top : List String) (before : Disk) (m : Memory) (d : Disk) :
    Prop where
  directory : ∀ below, below ≠ [] →
    (d.get? (top ++ below) = some .directory ↔ out.below below ∈ m.directories)
  file : ∀ below, below ≠ [] → ∀ c, d.get? (top ++ below) = some (.file c) ↔
    ∃ s, c = .text s ∧ m.read? (out.below below) = some s
  inside : ∀ p, p ∈ m.directories ∨ (m.read? p).isSome → ∃ below, below ≠ [] ∧ p = out.below below
  outside : ∀ names, (∀ below, below ≠ [] → names ≠ top ++ below) →
    d.get? names = before.get? names
  grown : before.Extends d
  known : ∀ p, p ∈ m.known ↔ p ∈ m.directories
  refused : m.refused = []

namespace Mirrors
variable {out : Path} {top place below : List String} {before d : Disk} {m : Memory} {name : String}

/-- An empty directory mirrors an empty store. -/
theorem start (h : ∀ below, below ≠ [] → before.get? (top ++ below) = none) :
    Mirrors out top before {} before where
  directory below hne := by simp [h below hne]
  file below hne c := by simp [h below hne, Memory.read?, Keyed.get?]
  inside p hp := by simp [Memory.read?, Keyed.get?] at hp
  outside names _ := rfl
  grown := .refl before
  known p := by simp
  refused := rfl

theorem hasDirectory_iff (h : Mirrors out top before m d) (hne : below ≠ []) :
    m.hasDirectory (out.below below) = true ↔ d.get? (top ++ below) = some .directory := by
  rw [Memory.hasDirectory, decide_eq_true_eq, h.known, h.directory below hne]

theorem hasFile_iff (h : Mirrors out top before m d) (hne : below ≠ []) :
    m.hasFile (out.below below) = true ↔ ∃ c, d.get? (top ++ below) = some (.file c) := by
  rw [Memory.hasFile, Option.isSome_iff_exists]
  constructor
  · rintro ⟨s, hs⟩
    exact ⟨.text s, (h.file below hne _).2 ⟨s, rfl, hs⟩⟩
  · rintro ⟨c, hc⟩
    obtain ⟨s, -, hs⟩ := (h.file below hne c).1 hc
    exact ⟨s, hs⟩

/-- Both are extended by a directory where there is nothing yet. -/
theorem addDirectory (h : Mirrors out top before m d) (hne : below ≠ [])
    (hnone : d.get? (top ++ below) = none) :
    Mirrors out top before (m.accept (.makeDirectory (out.below below) (.ok ())))
      (d.set (top ++ below) .directory) := by
  have htop : top ++ below ≠ [] := by simp [hne]
  have hread : m.read? (out.below below) = none := by
    rw [← Option.not_isSome_iff_eq_none]
    intro hs
    obtain ⟨c, hc⟩ := (h.hasFile_iff hne).1 hs
    rw [hnone] at hc
    cases hc
  constructor
  case directory =>
    intro other ho
    rw [Disk.get?_set_below hne]
    show _ ↔ out.below other ∈ m.directories ++ [out.below below]
    rw [List.mem_append, List.mem_singleton, Path.below_inj, ← h.directory other ho]
    by_cases heq : below = other
    · simp [heq]
    · simp [heq, Ne.symm heq]
  case file =>
    intro other ho c
    rw [Disk.get?_set_below hne]
    show _ ↔ ∃ s, c = .text s ∧ m.read? (out.below other) = some s
    by_cases heq : below = other
    · subst heq
      simp [hread]
    · rw [if_neg heq]
      exact h.file other ho c
  case inside =>
    intro p hp
    change p ∈ m.directories ++ [out.below below] ∨ (m.read? p).isSome at hp
    rw [List.mem_append, List.mem_singleton, or_assoc, or_left_comm] at hp
    rcases hp with rfl | hp
    · exact ⟨below, hne, rfl⟩
    · exact h.inside p hp
  case outside =>
    intro names hn
    rw [Disk.get?_set htop, if_neg (Ne.symm (hn below hne)), h.outside names hn]
  case grown => exact h.grown.trans (Disk.extends_set htop (.inl rfl))
  case known =>
    intro p
    show p ∈ out.below below :: m.known ↔ p ∈ m.directories ++ [out.below below]
    rw [List.mem_cons, List.mem_append, List.mem_singleton, h.known, or_comm]
  case refused => exact h.refused

/-- Both are changed by a file where there is no directory. -/
theorem addFile (h : Mirrors out top before m d) (hne : below ≠ [])
    (hnone : d.get? (top ++ below) ≠ some .directory) (content : String) :
    Mirrors out top before (m.accept (.write (out.below below) content (.ok ())))
      (d.set (top ++ below) (.file (.text content))) := by
  have htop : top ++ below ≠ [] := by simp [hne]
  have hread (p : Path) : (m.accept (.write (out.below below) content (.ok ()))).read? p =
      if out.below below = p then some content else m.read? p :=
    Keyed.get?_put p (out.below below) content m.files
  constructor
  case directory =>
    intro other ho
    rw [Disk.get?_set_below hne]
    show _ ↔ out.below other ∈ m.directories
    rw [← h.directory other ho]
    by_cases heq : below = other
    · subst heq
      simp [hnone]
    · rw [if_neg heq]
  case file =>
    intro other ho c
    rw [Disk.get?_set_below hne, hread]
    simp only [Path.below_inj]
    by_cases heq : below = other
    · simp [heq, eq_comm]
    · simp only [if_neg heq]
      exact h.file other ho c
  case inside =>
    intro p hp
    rw [hread] at hp
    by_cases heq : out.below below = p
    · exact ⟨below, hne, heq.symm⟩
    · rw [if_neg heq] at hp
      exact h.inside p hp
  case outside =>
    intro names hn
    rw [Disk.get?_set htop, if_neg (Ne.symm (hn below hne)), h.outside names hn]
  case grown => exact h.grown.trans (Disk.extends_set htop (.inr hnone))
  case known => exact h.known
  case refused => exact h.refused

end Mirrors

namespace Emit
open Sink

theorem ofDisk_makeDirectory (p : Path) (d : Disk) :
    Sink.ofDisk.makeDirectory p d =
      Sink.stepped d ((d.makeDirectory p).mapError (directoryTrouble p)) := by
  have hstep := Sink.advance_apply (fun d : Disk => d.makeDirectory p) d
  unfold Sink.ofDisk Sink.ofFiles
  simp only [bind, StateT.bind]
  rw [hstep]
  cases d.makeDirectory p <;> rfl

theorem ofDisk_write (p : Path) (content : String) (d : Disk) :
    Sink.ofDisk.write p content d =
      ((d.write p content).1.mapError (fileTrouble p), (d.write p content).2) := by
  simp only [Sink.ofDisk, Sink.ofFiles, bind, StateT.bind, modifyGet, MonadStateOf.modifyGet,
    StateT.modifyGet]
  rcases d.write p content with ⟨_ | _, d'⟩ <;> rfl

end Emit

namespace Mirrors
open Emit
variable {out : Path} {top place : List String} {before d : Disk} {m : Memory} {name : String}

/-- A directory in an open directory is made in both or refused by both, for the
same reason. -/
theorem makeDirectory (h : Mirrors out top before m d) (disk : Disk)
    (hr : before.resolve out = .ok top) (ho : d.IsOpen top place)
    (ha : before.Admits out (place ++ [name])) :
    (∃ t, (Sink.strict disk).makeDirectory (out.below (place ++ [name])) m = (.error t, m) ∧
      Sink.ofDisk.makeDirectory (out.below (place ++ [name])) d = (.error t, d)) ∨
    ∃ m' d', (Sink.strict disk).makeDirectory (out.below (place ++ [name])) m = (.ok (), m') ∧
      Sink.ofDisk.makeDirectory (out.below (place ++ [name])) d = (.ok (), d') ∧
      Mirrors out top before m' d' ∧ d.Extends d' ∧ d'.IsOpen top (place ++ [name]) := by
  have hne : place ++ [name] ≠ [] := by simp
  have hresolve := Disk.resolve_below (Disk.resolve_of_extends h.grown hr) ho (ha.extends h.grown)
  rw [ofDisk_makeDirectory, show (Sink.strict disk).makeDirectory _ m = _ from
    Memory.ofMemory_makeDirectory disk _ m, Memory.makeDirectory]
  cases hg : d.get? (top ++ (place ++ [name])) with
  | some item =>
    have hthere : (m.hasDirectory (out.below (place ++ [name])) ||
        m.hasFile (out.below (place ++ [name]))) = true := by
      rw [Bool.or_eq_true, h.hasDirectory_iff hne, h.hasFile_iff hne, hg]
      cases item <;> simp
    rw [if_pos hthere, Disk.makeDirectory_of_some hresolve hg]
    exact .inl ⟨_, rfl, rfl⟩
  | none =>
    have hnot : ¬(m.hasDirectory (out.below (place ++ [name])) ||
        m.hasFile (out.below (place ++ [name]))) = true := by
      rw [Bool.or_eq_true, h.hasDirectory_iff hne, h.hasFile_iff hne, hg]
      simp
    rw [if_neg hnot, Disk.makeDirectory_of_none hresolve hg]
    have hext : d.Extends (d.set (top ++ (place ++ [name])) .directory) :=
      Disk.extends_set (by simp) (.inl rfl)
    refine .inr ⟨_, _, rfl, rfl, h.addDirectory hne hg, hext, ?_, ?_⟩
    · have hmem : name ∈ place ++ [name] := by simp
      have ha' := ha.extends h.grown
      exact Disk.follow_of_extends hext
        (ho.follow_child ha'.searched (ha'.plain _ hmem) (ha'.short _ hmem))
    · rw [Disk.get?_set (by simp), if_pos rfl]

/-- A file in an open directory is written in both or refused by both, if not in
the same words. A text with a half in it empties the file in both. -/
theorem write (h : Mirrors out top before m d) (disk : Disk) (content : String)
    (hr : before.resolve out = .ok top) (ho : d.IsOpen top place)
    (ha : before.Admits out (place ++ [name])) :
    ∃ answer answer' m' d',
      (Sink.strict disk).write (out.below (place ++ [name])) content m = (answer, m') ∧
      Sink.ofDisk.write (out.below (place ++ [name])) content d = (answer', d') ∧
      Mirrors out top before m' d' ∧ d.Extends d' ∧
      (answer = answer' ∨ ∃ shown reason reason', answer = .error (.fault (.file shown reason)) ∧
        answer' = .error (.fault (.file shown reason'))) := by
  have hne : place ++ [name] ≠ [] := by simp
  have hresolve := Disk.resolve_below (Disk.resolve_of_extends h.grown hr) ho (ha.extends h.grown)
  have hrefused : ¬(out.below (place ++ [name])).name ∈ m.refused := by simp [h.refused]
  rw [ofDisk_write]
  by_cases hg : d.get? (top ++ (place ++ [name])) = some .directory
  · have hmem : m.write (out.below (place ++ [name])) content =
        .error (.file (out.below (place ++ [name])).text "path is a directory") := by
      rw [Memory.write, Memory.writeShown, if_neg hrefused, if_pos ((h.hasDirectory_iff hne).2 hg)]
    rw [Disk.write_of_fill_error fun content => Disk.fill_of_directory hresolve hg]
    simp only [Sink.strict, hmem]
    exact ⟨_, _, _, _, rfl, rfl, h, .refl d, .inr ⟨_, _, _, rfl, rfl⟩⟩
  · have hmem : m.write (out.below (place ++ [name])) content =
        .ok (m.accept (.write (out.below (place ++ [name])) content (.ok ()))) := by
      rw [Memory.write, Memory.writeShown, if_neg hrefused,
        if_neg fun hd => hg ((h.hasDirectory_iff hne).1 hd)]
      rfl
    have hgrown (content : String) : d.Extends (d.set (top ++ (place ++ [name]))
        (.file (.text content))) := Disk.extends_set (by simp) (.inr hg)
    have hfill (text : String) : d.fill (out.below (place ++ [name])) text =
        .ok (d.set (top ++ (place ++ [name])) (.file (.text text))) :=
      Disk.fill_of_not_directory hresolve hg
    cases hwhy : Text.unencodable? content.toList with
    | none =>
      rw [Disk.write_of_encodable (Text.unencodable?_eq_none_iff.1 hwhy), hfill]
      simp only [Sink.strict, hmem, hwhy]
      exact ⟨_, _, _, _, rfl, rfl, h.addFile hne hg content, hgrown content, .inl rfl⟩
    | some why =>
      rw [Disk.write_of_unencodable hwhy (hfill "")]
      simp only [Sink.strict, hmem, hwhy]
      exact ⟨_, _, _, _, rfl, rfl, h.addFile hne hg "", hgrown "", .inl rfl⟩

end Mirrors
end UmlPress
