import UmlPress.Proofs.Calls

/-!
# Histories of a store in memory

A store is asked for one directory or file after the other, and does as it is
asked or refuses. Whatever was asked for, a store that began empty is the image
of its history: its directories are those that were made, in that order and each
once, its files have what was last written to them, and no path is both. So it
can be told from the history alone what the store does next.
-/
namespace UmlPress.Emit

inductive Request where
  | directory (p : Path)
  | file (p : Path) (content : String)

def Request.call : Request → Answer → Call
  | .directory p => .makeDirectory p
  | .file p content => .write p content

namespace Sink

def serve {m : Type → Type} (s : Sink m) : Request → m Answer
  | .directory p => s.makeDirectory p
  | .file p content => s.write p content

/-- Makes one request after the other, whatever the answers are, and keeps the calls. -/
def serveAll {m : Type → Type} [Monad m] (s : Sink m) : List Request → m (List Call)
  | [] => pure []
  | r :: rest => do
    let answer ← s.serve r
    return r.call answer :: (← s.serveAll rest)

variable {σ : Type} (s : Sink (StateM σ)) (st : σ)

theorem serveAll_nil : s.serveAll [] st = ([], st) := rfl

theorem serveAll_cons (r : Request) (rest : List Request) : s.serveAll (r :: rest) st =
    (r.call (s.serve r st).1 :: (s.serveAll rest (s.serve r st).2).1,
      (s.serveAll rest (s.serve r st).2).2) := rfl

/-- A store that is changed by calls alone is changed by the calls of its history. -/
theorem serveAll_eq_foldl {effect : σ → Call → σ} (h : s.ChangesBy effect)
    (requests : List Request) :
    (s.serveAll requests st).2 = (s.serveAll requests st).1.foldl effect st := by
  induction requests generalizing st with
  | nil => rfl
  | cons r rest ih =>
    have hstep : (s.serve r st).2 = effect st (r.call (s.serve r st).1) := by
      cases r with
      | directory p => exact h.makeDirectory p st
      | file p content => exact h.write p content st
    rw [serveAll_cons, List.foldl_cons, ← hstep, ← ih]

end Sink
end UmlPress.Emit

namespace UmlPress.Memory
open Emit

variable {m m' : Memory} {calls : List Call} {p : Path}

def Taken (m : Memory) (p : Path) : Prop := p ∈ m.known ∨ (m.read? p).isSome

theorem not_taken_iff : ¬ m.Taken p ↔ p ∉ m.known ∧ m.read? p = none := by
  rw [Taken, not_or, Option.not_isSome_iff_eq_none]

theorem makeDirectory_of_taken (h : m.Taken p) :
    m.makeDirectory p = .error (.directory p.text "path already exists") := by
  rw [makeDirectory, if_pos]
  simpa [hasDirectory, hasFile, Taken] using h

theorem makeDirectory_of_not_taken (h : ¬ m.Taken p) :
    m.makeDirectory p = .ok (m.accept (.makeDirectory p (.ok ()))) := by
  rw [makeDirectory, if_neg]
  · rfl
  · simpa [hasDirectory, hasFile, Taken] using h

theorem write_of_closed (content : String) (h : p.name ∈ m.refused ∨ p ∈ m.known) :
    ∃ f, m.write p content = .error f := by
  rw [write, writeShown]
  by_cases hrefused : p.name ∈ m.refused
  · exact ⟨_, if_pos hrefused⟩
  · rw [if_neg hrefused, if_pos (by simpa [hasDirectory] using h.resolve_left hrefused)]
    exact ⟨_, rfl⟩

theorem write_of_open {content : String} (hrefused : p.name ∉ m.refused) (hknown : p ∉ m.known) :
    m.write p content = .ok (m.accept (.write p content (.ok ()))) := by
  rw [write, writeShown, if_neg hrefused, if_neg (by simpa [hasDirectory] using hknown)]
  rfl

theorem answer_directory_iff (disk : Disk) :
    ((Sink.ofMemory disk).makeDirectory p m).1 = .ok () ↔ ¬ m.Taken p := by
  rw [ofMemory_makeDirectory]
  by_cases h : m.Taken p
  · rw [makeDirectory_of_taken h]
    exact ⟨by rintro ⟨⟩, fun hnot => absurd h hnot⟩
  · rw [makeDirectory_of_not_taken h]
    exact ⟨fun _ => h, fun _ => rfl⟩

theorem answer_file_iff (disk : Disk) {content : String} :
    ((Sink.ofMemory disk).write p content m).1 = .ok () ↔ p.name ∉ m.refused ∧ p ∉ m.known := by
  rw [ofMemory_write]
  by_cases h : p.name ∈ m.refused ∨ p ∈ m.known
  · obtain ⟨f, hf⟩ := write_of_closed content h
    rw [← not_or, hf]
    exact ⟨by rintro ⟨⟩, fun hnot => absurd h hnot⟩
  · rw [not_or] at h
    rw [write_of_open h.1 h.2]
    exact ⟨fun _ => h, fun _ => rfl⟩

/-- A request that is refused leaves the store as it is. -/
theorem serve_of_error (disk : Disk) {r : Request} {t : Trouble}
    (h : ((Sink.ofMemory disk).serve r m).1 = .error t) :
    ((Sink.ofMemory disk).serve r m).2 = m := by
  cases r with
  | directory p =>
    have hstep := (changesBy_accept disk).makeDirectory p m
    rw [show ((Sink.ofMemory disk).makeDirectory p m).1 = _ from h] at hstep
    exact hstep
  | file p content =>
    have hstep := (changesBy_accept disk).write p content m
    rw [show ((Sink.ofMemory disk).write p content m).1 = _ from h] at hstep
    exact hstep

structure Reflects (m : Memory) (calls : List Call) : Prop where
  directories : m.directories = Call.made calls
  nodup : m.directories.Nodup
  known : ∀ p, p ∈ m.known ↔ p ∈ m.directories
  files : ∀ p, m.read? p = Keyed.last? p (Call.written calls)
  apart : ∀ p, p ∈ m.directories → m.read? p = none
  refused : m.refused = []

namespace Reflects

theorem empty : ({} : Memory).Reflects [] where
  directories := rfl
  nodup := .nil
  known _ := .rfl
  files _ := rfl
  apart _ _ := rfl
  refused := rfl

/-- The image of a history with one more directory, where nothing was. -/
theorem makeDirectory (h : m.Reflects calls) (hnew : p ∉ m.known) (hfree : m.read? p = none) :
    (m.accept (.makeDirectory p (.ok ()))).Reflects (calls ++ [.makeDirectory p (.ok ())]) where
  directories := by
    rw [Call.made_append, ← h.directories]
    rfl
  nodup := by
    refine List.nodup_append.2 ⟨h.nodup, List.pairwise_singleton _ p, ?_⟩
    intro q hq q' hq' heq
    rw [List.mem_singleton.1 hq'] at heq
    exact hnew ((h.known p).2 (heq ▸ hq))
  known q := by
    show q ∈ p :: m.known ↔ q ∈ m.directories ++ [p]
    rw [List.mem_cons, List.mem_append, List.mem_singleton, h.known, or_comm]
  files q := by
    rw [Call.written_append]
    exact (h.files q).trans (congrArg (Keyed.last? q) (List.append_nil _).symm)
  apart q hq := by
    change q ∈ m.directories ++ [p] at hq
    rcases List.mem_append.1 hq with hq | hq
    · exact h.apart q hq
    · rw [List.mem_singleton.1 hq]
      exact hfree
  refused := h.refused

/-- The image of a history with one more write, where no directory is. -/
theorem write (h : m.Reflects calls) (hfree : p ∉ m.known) (content : String) :
    (m.accept (.write p content (.ok ()))).Reflects (calls ++ [.write p content (.ok ())]) where
  directories := by
    rw [Call.made_append, ← h.directories]
    exact (List.append_nil _).symm
  nodup := h.nodup
  known := h.known
  files q := by
    rw [Call.written_append]
    show Keyed.get? q (Keyed.put p content m.files) =
      Keyed.last? q (Call.written calls ++ [(p, content)])
    rw [Keyed.get?_put, Keyed.last?, List.reverse_append]
    show _ = Keyed.get? q ((p, content) :: (Call.written calls).reverse)
    rw [Keyed.get?]
    exact congrArg (ite _ _) (h.files q)
  apart q hq := by
    have hne : p ≠ q := fun heq => hfree ((h.known p).2 (heq ▸ hq))
    show Keyed.get? q (Keyed.put p content m.files) = none
    rw [Keyed.get?_put, if_neg hne]
    exact h.apart q hq
  refused := h.refused

/-- A refusal adds nothing to the image. -/
theorem refusal (h : m.Reflects calls) (r : Request) (t : Trouble) :
    m.Reflects (calls ++ [r.call (.error t)]) where
  directories := by
    cases r <;> simpa [Request.call] using h.directories
  nodup := h.nodup
  known := h.known
  files q := by
    cases r <;> simpa [Request.call] using h.files q
  apart := h.apart
  refused := h.refused

/-- Whatever a store is asked for, it is the image of its history again. -/
theorem serve (h : m.Reflects calls) (disk : Disk) (r : Request) :
    ((Sink.ofMemory disk).serve r m).2.Reflects
      (calls ++ [r.call ((Sink.ofMemory disk).serve r m).1]) := by
  cases hanswer : ((Sink.ofMemory disk).serve r m).1 with
  | error t =>
    rw [serve_of_error disk hanswer]
    exact h.refusal r t
  | ok _ =>
    cases r with
    | directory p =>
      obtain ⟨hnew, hfree⟩ := not_taken_iff.1 ((answer_directory_iff disk).1 hanswer)
      have hstep := (changesBy_accept disk).makeDirectory p m
      rw [show ((Sink.ofMemory disk).makeDirectory p m).1 = _ from hanswer] at hstep
      rw [show ((Sink.ofMemory disk).serve (.directory p) m).2 = _ from hstep]
      exact h.makeDirectory hnew hfree
    | file p content =>
      obtain ⟨-, hfree⟩ := (answer_file_iff disk).1 hanswer
      have hstep := (changesBy_accept disk).write p content m
      rw [show ((Sink.ofMemory disk).write p content m).1 = _ from hanswer] at hstep
      rw [show ((Sink.ofMemory disk).serve (.file p content) m).2 = _ from hstep]
      exact h.write hfree content

theorem serveAll (h : m.Reflects calls) (disk : Disk) (requests : List Request) :
    ((Sink.ofMemory disk).serveAll requests m).2.Reflects
      (calls ++ ((Sink.ofMemory disk).serveAll requests m).1) := by
  induction requests generalizing m calls with
  | nil =>
    rw [Sink.serveAll_nil, List.append_nil]
    exact h
  | cons r rest ih =>
    have hrest := ih (h.serve disk r)
    rwa [List.append_assoc] at hrest

end Reflects

/-- What stands in a store after more requests: its directories still, and its files
with what was last written to them. -/
theorem serveAll_keeps (disk : Disk) (requests : List Request) {calls : List Call}
    (h : (Sink.ofMemory disk).serveAll requests m = (calls, m')) :
    (∀ p ∈ m.directories, p ∈ m'.directories) ∧
      ∀ p, m'.read? p = (Keyed.last? p (Call.written calls)).or (m.read? p) := by
  have hend := Sink.serveAll_eq_foldl (Sink.ofMemory disk) m (changesBy_accept disk) requests
  rw [h] at hend
  constructor
  · intro p hp
    rw [show m' = _ from hend, foldl_accept_directories]
    exact List.mem_append_left _ hp
  · intro p
    rw [show m' = _ from hend, read?, foldl_accept_files, Keyed.get?_update]
    rfl

/-- A store that began empty is a consistent image of its history, whatever was
asked for and whatever it refused. Its directories are those that were made, each
listed once, and the ones it looks up; its files have what was last written to them;
no path is both. What it does next can be told from that image: it makes a directory
where nothing is, writes a file where no directory is, and is left as it was by
whatever it refuses. Directories and files stay, however long the history goes on. -/
theorem image_of_history (disk : Disk) (requests later : List Request) :
    ∃ calls m more m',
      (Sink.ofMemory disk).serveAll requests {} = (calls, m) ∧
      (Sink.ofMemory disk).serveAll later m = (more, m') ∧
      m.directories = Call.made calls ∧ m.directories.Nodup ∧
      (∀ p, p ∈ m.known ↔ p ∈ m.directories) ∧
      (∀ p, m.read? p = Keyed.last? p (Call.written calls)) ∧
      (∀ p ∈ m.directories, m.read? p = none) ∧
      (∀ r t, ((Sink.ofMemory disk).serve r m).1 = .error t →
        ((Sink.ofMemory disk).serve r m).2 = m) ∧
      (∀ p, ((Sink.ofMemory disk).makeDirectory p m).1 = .ok () ↔
        p ∉ m.directories ∧ m.read? p = none) ∧
      (∀ p content, ((Sink.ofMemory disk).write p content m).1 = .ok () ↔ p ∉ m.directories) ∧
      (∀ p ∈ m.directories, p ∈ m'.directories) ∧
      ∀ p content, m.read? p = some content →
        m'.read? p = some ((Keyed.last? p (Call.written more)).getD content) := by
  have hm : ((Sink.ofMemory disk).serveAll requests {}).2.Reflects
      ((Sink.ofMemory disk).serveAll requests {}).1 := Reflects.empty.serveAll disk requests
  generalize (Sink.ofMemory disk).serveAll requests {} = x at *
  obtain ⟨calls, m⟩ := x
  generalize hlater : (Sink.ofMemory disk).serveAll later m = y
  obtain ⟨more, m'⟩ := y
  obtain ⟨hkept, hread⟩ := serveAll_keeps disk later hlater
  refine ⟨calls, m, more, m', rfl, hlater, hm.directories, hm.nodup, hm.known, hm.files, hm.apart,
    fun r t => serve_of_error disk, fun p => ?_, fun p content => ?_, hkept, fun p content h => ?_⟩
  · rw [answer_directory_iff, not_taken_iff, hm.known]
  · rw [answer_file_iff, hm.known, hm.refused]
    exact and_iff_right List.not_mem_nil
  · rw [hread, h]
    cases Keyed.last? p (Call.written more) <;> rfl

/-- Paths that are written in different ways are one path, so the second directory is
refused, and so is the file in its place. -/
example : Call.made ((Sink.ofMemory .fresh).serveAll [.directory (.ofString "a//b/."),
    .directory (.ofString "a/b"), .file (.ofString "./a/b") "x"] {}).1 = [⟨.none, ["a", "b"]⟩] := by
  decide +kernel

end UmlPress.Memory
