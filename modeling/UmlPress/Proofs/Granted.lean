import UmlPress.Proofs.Requests

/-!
# Requests that are all granted

A store in memory grants a number of requests just if the directories among them are
new, differ, and are no files, and the files are neither refused nor directories. In
what order they are made is no part of that, nor of what then stands in the store, if
no file is asked for twice.
-/
namespace UmlPress

namespace Emit.Request

def granted (requests : List Request) : List Call := requests.map (·.call (.ok ()))

def writes (requests : List Request) : List (Path × String) := Call.written (granted requests)

def makes (requests : List Request) : List Path := Call.made (granted requests)

variable (p : Path) (content : String) (requests later : List Request)

theorem writes_file : writes (.file p content :: requests) = (p, content) :: writes requests := rfl

theorem writes_directory : writes (.directory p :: requests) = writes requests := rfl

theorem makes_file : makes (.file p content :: requests) = makes requests := rfl

theorem makes_directory :
    makes (.directory p :: requests) = p :: makes requests := rfl

theorem writes_append : writes (requests ++ later) = writes requests ++ writes later := by
  rw [writes, granted, List.map_append, Call.written_append]
  rfl

theorem makes_append :
    makes (requests ++ later) = makes requests ++ makes later := by
  rw [makes, granted, List.map_append, Call.made_append]
  rfl

variable {requests later}

theorem perm_writes (h : requests.Perm later) : (writes requests).Perm (writes later) :=
  (h.map _).filterMap _

theorem perm_makes (h : requests.Perm later) :
    (makes requests).Perm (makes later) := (h.map _).filterMap _

end Emit.Request

namespace Memory
open Emit Emit.Request

variable {m m' : Memory} {p q : Path} {content : String} {requests later : List Request}

def grant (m : Memory) : List Request → Option Memory
  | [] => some m
  | .directory p :: rest =>
    match m.makeDirectory p with
    | .ok next => next.grant rest
    | .error _ => none
  | .file p content :: rest =>
    match m.write p content with
    | .ok next => next.grant rest
    | .error _ => none

theorem grant_append : m.grant (requests ++ later) = (m.grant requests).bind (·.grant later) := by
  induction requests generalizing m with
  | nil => rfl
  | cons r rest ih =>
    cases r with
    | directory p =>
      rw [List.cons_append, grant, grant]
      cases m.makeDirectory p with
      | error f => rfl
      | ok next => exact ih
    | file p content =>
      rw [List.cons_append, grant, grant]
      cases m.write p content with
      | error f => rfl
      | ok next => exact ih

/-- A store that grants requests is changed by them as by calls that succeed. -/
theorem eq_of_grant (h : m.grant requests = some m') : m' = (granted requests).foldl accept m := by
  induction requests generalizing m with
  | nil => exact (Option.some.inj h).symm
  | cons r rest ih =>
    cases r with
    | directory p =>
      rw [grant] at h
      cases hm : m.makeDirectory p with
      | error f => simp [hm] at h
      | ok next =>
        rw [hm] at h
        rw [ih h, eq_of_makeDirectory_eq_ok hm]
        rfl
    | file p content =>
      rw [grant] at h
      cases hm : m.write p content with
      | error f => simp [hm] at h
      | ok next =>
        rw [hm] at h
        rw [ih h, eq_of_write_eq_ok hm]
        rfl

structure Allows (m : Memory) (requests : List Request) : Prop where
  nodup : (makes requests).Nodup
  free : ∀ p ∈ makes requests, ¬ m.Taken p ∧ p ∉ (writes requests).map (·.1)
  opened : ∀ x ∈ writes requests, x.1.name ∉ m.refused ∧ x.1 ∉ m.known

theorem taken_accept_directory :
    (m.accept (.makeDirectory p (.ok ()))).Taken q ↔ q = p ∨ m.Taken q := by
  rw [Taken, Taken, ← or_assoc]
  exact or_congr_left List.mem_cons

theorem taken_accept_file :
    (m.accept (.write p content (.ok ()))).Taken q ↔ q = p ∨ m.Taken q := by
  show q ∈ m.known ∨ (Keyed.get? q (Keyed.put p content m.files)).isSome ↔ _
  rw [Keyed.get?_put, Taken, read?]
  by_cases h : p = q
  · simp [h]
  · simp [h, Ne.symm h]

theorem allows_directory : m.Allows (.directory p :: requests) ↔
    ¬ m.Taken p ∧ (m.accept (.makeDirectory p (.ok ()))).Allows requests := by
  constructor
  · rintro ⟨hnodup, hfree, hopened⟩
    rw [makes_directory, List.nodup_cons] at hnodup
    rw [makes_directory, writes_directory, List.forall_mem_cons] at hfree
    rw [writes_directory] at hopened
    refine ⟨hfree.1.1, hnodup.2, fun q hq => ⟨?_, (hfree.2 q hq).2⟩, fun x hx => ?_⟩
    · rw [taken_accept_directory, not_or]
      exact ⟨fun h => hnodup.1 (h ▸ hq), (hfree.2 q hq).1⟩
    · have hne : x.1 ≠ p := fun h => hfree.1.2 (List.mem_map.2 ⟨x, hx, h⟩)
      exact ⟨(hopened x hx).1, List.not_mem_cons_of_ne_of_not_mem hne (hopened x hx).2⟩
  · rintro ⟨hnew, hnodup, hfree, hopened⟩
    have hopen {x : Path × String} (hx : x ∈ writes requests) : x.1 ≠ p ∧ x.1 ∉ m.known :=
      List.ne_and_not_mem_of_not_mem_cons (hopened x hx).2
    refine ⟨?_, ?_, fun x hx => ⟨(hopened x hx).1, (hopen hx).2⟩⟩
    · rw [makes_directory, List.nodup_cons]
      exact ⟨fun h => (hfree p h).1 (taken_accept_directory.2 (.inl rfl)), hnodup⟩
    · rw [makes_directory, writes_directory, List.forall_mem_cons]
      refine ⟨⟨hnew, fun h => ?_⟩, fun q hq => ⟨fun h => ?_, (hfree q hq).2⟩⟩
      · obtain ⟨x, hx, heq⟩ := List.mem_map.1 h
        exact (hopen hx).1 heq
      · exact (hfree q hq).1 (taken_accept_directory.2 (.inr h))

theorem allows_file : m.Allows (.file p content :: requests) ↔
    (p.name ∉ m.refused ∧ p ∉ m.known) ∧
      (m.accept (.write p content (.ok ()))).Allows requests := by
  constructor
  · rintro ⟨hnodup, hfree, hopened⟩
    rw [makes_file, writes_file, List.map_cons] at hfree
    rw [writes_file, List.forall_mem_cons] at hopened
    refine ⟨hopened.1, hnodup, fun q hq => ?_, hopened.2⟩
    obtain ⟨hnew, hapart⟩ := hfree q hq
    rw [List.mem_cons, not_or] at hapart
    refine ⟨?_, hapart.2⟩
    rw [taken_accept_file, not_or]
    exact ⟨hapart.1, hnew⟩
  · rintro ⟨hfirst, hnodup, hfree, hopened⟩
    refine ⟨hnodup, fun q hq => ?_, ?_⟩
    · obtain ⟨hnew, hapart⟩ := hfree q hq
      rw [taken_accept_file, not_or] at hnew
      rw [writes_file, List.map_cons, List.mem_cons, not_or]
      exact ⟨hnew.2, hnew.1, hapart⟩
    · rw [writes_file, List.forall_mem_cons]
      exact ⟨hfirst, hopened⟩

/-- Requests are granted just if the store allows them together. -/
theorem isSome_grant : (m.grant requests).isSome ↔ m.Allows requests := by
  induction requests generalizing m with
  | nil => exact iff_of_true rfl ⟨.nil, by simp [makes, granted], by simp [writes, granted]⟩
  | cons r rest ih =>
    cases r with
    | directory p =>
      rw [allows_directory, grant]
      by_cases h : m.Taken p
      · simp [makeDirectory_of_taken h, h]
      · simpa [makeDirectory_of_not_taken h, h] using ih
    | file p content =>
      rw [allows_file, grant]
      by_cases h : p.name ∈ m.refused ∨ p ∈ m.known
      · obtain ⟨f, hf⟩ := write_of_closed content h
        rw [hf, ← not_or]
        simp [h]
      · rw [not_or] at h
        simpa [write_of_open h.1 h.2, h] using ih

theorem Allows.perm (h : m.Allows requests) (hp : requests.Perm later) : m.Allows later where
  nodup := (perm_makes hp).nodup_iff.1 h.nodup
  free p hmem := by
    obtain ⟨hnew, hapart⟩ := h.free p ((perm_makes hp).mem_iff.2 hmem)
    exact ⟨hnew, fun hfile => hapart (((perm_writes hp).map _).mem_iff.2 hfile)⟩
  opened x hx := h.opened x ((perm_writes hp).mem_iff.2 hx)

/-- Requests that are granted in one order are granted in every other, and leave the
same in the store if no file is asked for twice. -/
theorem exists_grant_of_perm (h : m.grant requests = some m') (hp : requests.Perm later)
    (hn : ((writes requests).map (·.1)).Nodup) :
    ∃ m'', m.grant later = some m'' ∧ (∀ q, m''.read? q = m'.read? q) ∧
      m''.directories.Perm m'.directories ∧ m''.known.Perm m'.known := by
  have hallows := isSome_grant.1 (Option.isSome_iff_exists.2 ⟨m', h⟩)
  obtain ⟨m'', hlater⟩ := Option.isSome_iff_exists.1 (isSome_grant.2 (hallows.perm hp))
  refine ⟨m'', hlater, fun q => ?_, ?_, ?_⟩
  · have hfiles : Keyed.last? q (writes requests) = Keyed.last? q (writes later) :=
      Keyed.last?_perm hn (perm_writes hp) q
    rw [eq_of_grant h, eq_of_grant hlater, read?, read?, foldl_accept_files, foldl_accept_files,
      Keyed.get?_update, Keyed.get?_update]
    exact congrArg (Option.or · (Keyed.get? q m.files)) hfiles.symm
  · rw [eq_of_grant h, eq_of_grant hlater, foldl_accept_directories, foldl_accept_directories]
    exact (perm_makes hp).symm.append_left _
  · rw [eq_of_grant h, eq_of_grant hlater, foldl_accept_known, foldl_accept_known]
    have hreverse := (List.reverse_perm (makes later)).trans
      ((perm_makes hp).symm.trans (List.reverse_perm (makes requests)).symm)
    exact hreverse.append_right _

end Memory
end UmlPress
