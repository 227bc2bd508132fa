import Mathlib.Data.List.Nodup
import UmlPress.Proofs.Mirror

/-!
# Directories are made once

A store does not make a directory that it has, and it keeps the directories that
it has made, whatever else it is asked for. So the directories that one run makes
are all different, and none of them was there before.
-/
namespace UmlPress.Emit

structure Sink.MakesOnce {σ : Type} (s : Sink (StateM σ)) (has : σ → Path → Prop) : Prop where
  makes : ∀ p st, (s.makeDirectory p st).1 = .ok () →
    ¬ has st p ∧ has (s.makeDirectory p st).2 p
  makeDirectory : ∀ p q st, has st q → has (s.makeDirectory p st).2 q
  write : ∀ p content q st, has st q → has (s.write p content st).2 q
  look : ∀ p q st, has st q → has (s.look p st).2 q
  note : ∀ n q st, has st q → has (s.note n st).2 q

/-- The directories of a run are all different, and new. -/
theorem Plan.nodup_made {σ α : Type} {sink : Sink (StateM σ)} {has : σ → Path → Prop}
    (hs : sink.MakesOnce has) (x : Plan α) {before : List Call} {st : σ} {calls : List Call}
    (h : ((x.run sink.recorded).run before st).1.2 = before ++ calls) :
    (Call.made calls).Nodup ∧ ∀ p ∈ Call.made calls, ¬ has st p := by
  induction x generalizing before st calls with
  | done a =>
    obtain rfl : calls = [] := List.append_right_eq_self.1 h.symm
    simp
  | makeDirectory p next ih =>
    have hnext : (((next (sink.makeDirectory p st).1).run sink.recorded).run
        (before ++ [.makeDirectory p (sink.makeDirectory p st).1])
          (sink.makeDirectory p st).2).1.2 = before ++ calls := h
    obtain ⟨rest, rfl, hlog⟩ := exists_later hnext
    obtain ⟨hnodup, hnew⟩ := ih _ hlog
    have hold : ∀ q ∈ Call.made rest, ¬ has st q := fun q hq hhas =>
      hnew q hq (hs.makeDirectory p q st hhas)
    cases hanswer : (sink.makeDirectory p st).1 with
    | error t => exact ⟨hnodup, hold⟩
    | ok u =>
      obtain ⟨hfresh, hhas⟩ := hs.makes p st hanswer
      rw [Call.made_makeDirectory_ok]
      refine ⟨List.nodup_cons.2 ⟨fun hmem => hnew p hmem hhas, hnodup⟩, ?_⟩
      exact List.forall_mem_cons.2 ⟨hfresh, hold⟩
  | write p content next ih =>
    have hnext : (((next (sink.write p content st).1).run sink.recorded).run
        (before ++ [.write p content (sink.write p content st).1])
          (sink.write p content st).2).1.2 = before ++ calls := h
    obtain ⟨rest, rfl, hlog⟩ := exists_later hnext
    obtain ⟨hnodup, hnew⟩ := ih _ hlog
    exact ⟨hnodup, fun q hq hhas => hnew q hq (hs.write p content q st hhas)⟩
  | look p next ih =>
    have hlog : (((next (sink.look p st).1).run sink.recorded).run before
        (sink.look p st).2).1.2 = before ++ calls := h
    obtain ⟨hnodup, hnew⟩ := ih _ hlog
    exact ⟨hnodup, fun q hq hhas => hnew q hq (hs.look p q st hhas)⟩
  | note n next ih =>
    have hlog : ((next.run sink.recorded).run before (sink.note n st).2).1.2 =
        before ++ calls := h
    obtain ⟨hnodup, hnew⟩ := ih hlog
    exact ⟨hnodup, fun q hq hhas => hnew q hq (hs.note n q st hhas)⟩

theorem makesOnce_ofMemory (disk : Disk) :
    (Sink.ofMemory disk).MakesOnce fun m p => p ∈ m.known where
  makes p m h := by
    rw [Memory.ofMemory_makeDirectory] at h ⊢
    cases hm : m.makeDirectory p with
    | error f =>
      rw [hm] at h
      cases h
    | ok next =>
      refine ⟨fun hp => ?_, ?_⟩
      · rw [Memory.makeDirectory, if_pos (by simp [Memory.hasDirectory, hp])] at hm
        cases hm
      · rw [Memory.eq_of_makeDirectory_eq_ok hm]
        exact List.mem_cons_self
  makeDirectory p q m hq := by
    rw [(Memory.changesBy_accept disk).makeDirectory]
    rcases ((Sink.ofMemory disk).makeDirectory p m).1 with t | u
    · exact hq
    · exact List.mem_cons_of_mem _ hq
  write p content q m hq := by
    rw [(Memory.changesBy_accept disk).write]
    rcases ((Sink.ofMemory disk).write p content m).1 with t | u <;> exact hq
  look _ _ _ hq := hq
  note _ _ _ hq := hq

end UmlPress.Emit

namespace UmlPress.Disk
variable {d d' : Disk} {p : Path}

def HasDirectory (d : Disk) (p : Path) : Prop :=
  ∃ names, d.resolve p = .ok names ∧ d.get? names = some .directory

theorem HasDirectory.extends (h : d.HasDirectory p) (he : d.Extends d') : d'.HasDirectory p := by
  obtain ⟨names, hr, hg⟩ := h
  exact ⟨names, resolve_of_extends he hr, he.directory names hg⟩

/-- What has no item under it is not the top. -/
theorem ne_nil_of_get? {names : List String} (h : d.get? names ≠ some .directory) :
    names ≠ [] := by
  rintro rfl
  exact h rfl

/-- A directory is made where nothing was, and nothing is lost by it. -/
theorem of_makeDirectory_eq_ok (h : d.makeDirectory p = .ok d') :
    ¬ d.HasDirectory p ∧ d'.HasDirectory p ∧ d.Extends d' := by
  cases hr : d.resolve p with
  | error r => simp [makeDirectory, hr, bind, Except.bind] at h
  | ok names =>
    cases hg : d.get? names with
    | some item =>
      rw [makeDirectory_of_some hr hg] at h
      cases h
    | none =>
      rw [makeDirectory_of_none hr hg] at h
      cases h
      have hne : names ≠ [] := ne_nil_of_get? (d := d) (by simp [hg])
      have hext : d.Extends (d.set names .directory) := extends_set hne (.inl rfl)
      refine ⟨?_, ⟨names, resolve_of_extends hext hr, ?_⟩, hext⟩
      · rintro ⟨others, hr', hg'⟩
        cases hr.symm.trans hr'
        rw [hg] at hg'
        cases hg'
      · rw [get?_set hne, if_pos rfl]

theorem extends_of_fill_eq_ok {content : String} (h : d.fill p content = .ok d') :
    d.Extends d' := by
  cases hr : d.resolve p with
  | error r => simp [fill, hr, bind, Except.bind] at h
  | ok names =>
    by_cases hg : d.get? names = some .directory
    · rw [fill_of_directory hr hg] at h
      cases h
    · rw [fill_of_not_directory hr hg] at h
      cases h
      exact extends_set (ne_nil_of_get? hg) (.inr hg)

/-- No directory is lost when a file is written, whether or not it comes to its end. -/
theorem extends_write (d : Disk) (p : Path) (content : String) :
    d.Extends (d.write p content).2 := by
  unfold write
  cases Text.unencodable? content.toList with
  | none =>
    cases hf : d.fill p content with
    | ok d' => exact extends_of_fill_eq_ok hf
    | error r => exact .refl d
  | some why =>
    cases hf : d.fill p "" with
    | ok d' => exact extends_of_fill_eq_ok hf
    | error r => exact .refl d

end UmlPress.Disk

namespace UmlPress.Emit

theorem makesOnce_ofDisk : Sink.ofDisk.MakesOnce Disk.HasDirectory where
  makes p d h := by
    rw [ofDisk_makeDirectory] at h ⊢
    cases hd : d.makeDirectory p with
    | error r =>
      rw [hd] at h
      cases h
    | ok d' =>
      obtain ⟨hnew, hhas, -⟩ := Disk.of_makeDirectory_eq_ok hd
      exact ⟨hnew, hhas⟩
  makeDirectory p q d hq := by
    rw [ofDisk_makeDirectory]
    cases hd : d.makeDirectory p with
    | error r => exact hq
    | ok d' => exact hq.extends (Disk.of_makeDirectory_eq_ok hd).2.2
  write p content q d hq := by
    rw [ofDisk_write]
    exact hq.extends (d.extends_write p content)
  look _ _ _ hq := hq
  note _ _ _ hq := hq

end UmlPress.Emit
