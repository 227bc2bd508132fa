import UmlPress.Command.World
import UmlPress.Proofs.Calls
import UmlPress.Proofs.Conduct
import UmlPress.Proofs.Overlay

/-!
# What stores answer

A store in memory refuses with faults that name the path. So does a file system, unless there
is a null character or a half of a character in the path or a half in what is to be written: then
it cannot be asked.
-/
namespace UmlPress

namespace Disk
variable {given : List String} {d d' : Disk} {p : Path} {r : Refusal} {content : String}

/-- A refusal because of a null character in the path, because of a half in the path or in what is
to be written, or for a reason without signs. -/
inductive Refusal.IsPlain (p : Path) (content : String) : Refusal → Prop
  | nullCharacter : '\x00' ∈ p.text.toList → IsPlain p content .nullCharacter
  | unencodable {why : Text.Unencodable} :
    ¬ Text.Encodable p.text.toList ∨ ¬ Text.Encodable content.toList →
    IsPlain p content (.unencodable why)
  | told {r : Refusal} : r ≠ .nullCharacter → (∀ why, r ≠ .unencodable why) →
    IsUnsigned r.reason → IsPlain p content r

theorem isPlain_descend {above : List String} {name : String}
    (h : d.descend above name = .error r) : r.IsPlain p content := by
  unfold descend at h
  split at h
  · cases h
    exact .told nofun nofun (by decide)
  · cases h
    exact .told nofun nofun (by decide)
  · split_ifs at h <;> cases h
    · exact .told nofun nofun (by decide)
    · exact .told nofun nofun (by decide)

theorem isPlain_follow {above names : List String} (h : d.follow above names = .error r) :
    r.IsPlain p content := by
  induction names generalizing above with
  | nil => cases h
  | cons name rest ih =>
    rw [follow] at h
    obtain hstep | ⟨below, -, hrest⟩ := bind_eq_error.1 h
    · exact isPlain_descend hstep
    · exact ih hrest

theorem isPlain_resolve (h : d.resolve p = .error r) : r.IsPlain p content := by
  unfold resolve at h
  split at h
  case h_1 why hwhy =>
    cases h
    refine .unencodable (.inl fun hwhole => ?_)
    rw [Text.unspellable?_eq_none_iff.2 fun c hc hhalf => by
      rw [hwhole c hc] at hhalf
      cases hhalf] at hwhy
    cases hwhy
  case h_2 =>
    split at h
    case isTrue hnull =>
      cases h
      rw [String.contains_char_eq] at hnull
      exact .nullCharacter (by simpa using hnull)
    case isFalse =>
      split at h
      · cases h
        exact .told nofun nofun (by decide)
      · exact isPlain_follow h

theorem isPlain_makeDirectory (h : d.makeDirectory p = .error r) : r.IsPlain p content := by
  obtain hresolve | ⟨names, -, hget⟩ := bind_eq_error.1 h
  · exact isPlain_resolve hresolve
  · split at hget <;> cases hget
    exact .told nofun nofun (by decide)

theorem isPlain_fill {text : String} (h : d.fill p text = .error r) : r.IsPlain p content := by
  obtain hresolve | ⟨names, -, hget⟩ := bind_eq_error.1 h
  · exact isPlain_resolve hresolve
  · split at hget <;> cases hget
    exact .told nofun nofun (by decide)

theorem isPlain_write (h : (d.write p content).1 = .error r) : r.IsPlain p content := by
  unfold write at h
  split at h
  · split at h
    · cases h
    · rename_i hfill
      cases h
      exact isPlain_fill hfill
  · rename_i why hwhy
    split at h
    · cases h
      refine .unencodable (.inr fun hwhole => ?_)
      rw [Text.unencodable?_eq_none_iff.2 hwhole] at hwhy
      cases hwhy
    · rename_i hfill
      cases h
      exact isPlain_fill hfill

end Disk

namespace Emit
variable {given : List String} {p : Path} {r : Disk.Refusal} {content : String}

theorem Trouble.ofRefusal_told {fault : String → Fault} {shown : String}
    (hnull : r ≠ .nullCharacter) (hspelled : ∀ why, r ≠ .unencodable why) :
    Trouble.ofRefusal fault shown r = .fault (fault r.reason) := by
  unfold Trouble.ofRefusal
  split
  · exact absurd rfl hnull
  · exact absurd rfl (hspelled _)
  · rfl

theorem bearable_ofRefusal {fault : String → Fault} (hp : p.Stems given)
    (hcontent : Whole given content) (hr : r.IsPlain p content)
    (hfault : ∀ reason, Stems given reason → Stems given (fault reason).message) :
    (Trouble.ofRefusal fault p.text r).Bearable given True := by
  cases hr with
  | nullCharacter hnull => exact .nullCharacter trivial (Path.stems_text hp _ hnull (by decide))
  | unencodable hhalf =>
    refine .unencodable trivial ?_
    by_contra! hnone
    exact hhalf.elim (· ((Path.stems_text hp).whole hnone)) (· (hcontent hnone))
  | told hnull hspelled hreason =>
    rw [Trouble.ofRefusal_told hnull hspelled]
    exact .fault (hfault _ (.of_unsigned hreason))

theorem bearable_directoryTrouble (hp : p.Stems given) (hr : r.IsPlain p "") :
    (directoryTrouble p r).Bearable given True := by
  unfold directoryTrouble
  split
  · exact .fault (stems_directory (Path.stems_text hp) (.of_unsigned (by decide)))
  · exact bearable_ofRefusal hp (.of_encodable (by decide)) hr
      fun _ => stems_directory (Path.stems_text hp)

theorem bearable_fileTrouble (hp : p.Stems given) (hcontent : Whole given content)
    (hr : r.IsPlain p content) : (fileTrouble p r).Bearable given True :=
  bearable_ofRefusal hp hcontent hr fun _ => stems_file (Path.stems_text hp)

/-- The names of all files in a store are put together from given texts, and no half stands in
the files unless it stands in those. -/
def FilesStem (given : List String) (s : Memory) : Prop :=
  ∀ f ∈ s.files, f.1.Stems given ∧ Whole given f.2

theorem serves_ofMemory (disk : Disk) : (Sink.ofMemory disk).Serves (Path.Stems given)
    (Whole given) (Trouble.Bearable given False) (FilesStem given) where
  makeDirectory p s hp hs := by
    rw [Memory.ofMemory_makeDirectory]
    unfold Memory.makeDirectory
    split
    · refine ⟨hs, ?_⟩
      rintro t ⟨⟩
      exact .fault (stems_directory (Path.stems_text hp) (.of_unsigned (by decide)))
    · exact ⟨hs, nofun⟩
  write p content s hp hcontent hs := by
    rw [Memory.ofMemory_write]
    unfold Memory.write Memory.writeShown
    split
    · refine ⟨hs, ?_⟩
      rintro t ⟨⟩
      exact .fault (stems_file (Path.stems_text hp) (.of_unsigned (by decide)))
    · split
      · refine ⟨hs, ?_⟩
        rintro t ⟨⟩
        exact .fault (stems_file (Path.stems_text hp) (.of_unsigned (by decide)))
      · refine ⟨fun f hf => ?_, nofun⟩
        rcases Keyed.mem_put hf with hf | rfl
        · exact hs f hf
        · exact ⟨hp, hcontent⟩
  note n s hs := hs

end Emit

namespace Command
open Emit
variable {given : List String}

theorem Machine.note_of_journal {m : Machine} (h : m.journal = none) (n : Note) : m.note n = m := by
  rw [Machine.note, h]

def Machine.afterwards (m : Machine) (trouble : Disk.Refusal → Trouble) (n : Note) :
    Except Disk.Refusal Unit × Disk → Answer × Machine
  | (.ok _, disk) => (.ok (), { m with disk }.note n)
  | (.error r, disk) => (.error (trouble r), { m with disk })

def answered (d : Disk) : Except Disk.Refusal Disk → Except Disk.Refusal Unit × Disk
  | .ok disk => (.ok (), disk)
  | .error r => (.error r, d)

theorem sink_makeDirectory (p : Path) (m : Machine) : Machine.world.sink.makeDirectory p m =
    m.afterwards (directoryTrouble p) (madeNote p)
      (answered m.disk (m.disk.makeDirectory p)) := by
  simp only [World.sink, Emit.Sink.ofFiles, Machine.world, bind, StateT.bind, Machine.onDisk,
    modifyGet, MonadStateOf.modifyGet, StateT.modifyGet]
  cases m.disk.makeDirectory p <;> rfl

theorem sink_write (p : Path) (content : String) (m : Machine) :
    Machine.world.sink.write p content m =
      m.afterwards (fileTrouble p) (wroteNote p content) (m.disk.write p content) := by
  simp only [World.sink, Emit.Sink.ofFiles, Machine.world, bind, StateT.bind,
    modifyGet, MonadStateOf.modifyGet, StateT.modifyGet]
  generalize m.disk.write p content = y
  obtain ⟨r | ⟨⟩, disk⟩ := y <;> rfl

theorem of_afterwards {m : Machine} (hm : m.journal = none) {trouble : Disk.Refusal → Trouble}
    {n : Note} {step : Except Disk.Refusal Unit × Disk} {answers : Trouble → Prop}
    (h : ∀ r, step.1 = .error r → answers (trouble r)) :
    (m.afterwards trouble n step).2.journal = none ∧
      ∀ t, (m.afterwards trouble n step).1 = .error t → answers t := by
  obtain ⟨r | ⟨⟩, d⟩ := step
  · refine ⟨hm, ?_⟩
    rintro t ⟨⟩
    exact h r rfl
  · have hnote := Machine.note_of_journal (m := { m with disk := d }) hm n
    exact ⟨by rw [Machine.afterwards, hnote]; exact hm, nofun⟩

theorem serves_world : Machine.world.sink.Serves (Path.Stems given) (Whole given)
    (Trouble.Bearable given True) fun m => m.journal = none where
  makeDirectory p m hp hm := by
    rw [sink_makeDirectory]
    refine of_afterwards hm fun r hr => bearable_directoryTrouble hp ?_
    cases hmade : m.disk.makeDirectory p with
    | ok d =>
      rw [hmade] at hr
      cases hr
    | error r' =>
      rw [hmade] at hr
      cases hr
      exact Disk.isPlain_makeDirectory hmade
  write p content m hp hcontent hm := by
    rw [sink_write]
    exact of_afterwards hm fun r hr => bearable_fileTrouble hp hcontent (Disk.isPlain_write hr)
  note n m hm := by
    change (m.note n).journal = none
    rwa [Machine.note_of_journal hm]

/-- A store in memory leaves a machine whose notes go nowhere as it is. -/
theorem run_memory_world {α : Type} (x : Plan α) (s : Memory) {m : Machine}
    (h : m.journal = none) : (x.run Machine.world.memory).run s m =
      (x.run (Sink.ofMemory m.disk) s, m) := by
  induction x generalizing s with
  | done a => rfl
  | makeDirectory p next ih => exact ih _ _
  | write p content next ih => exact ih _ _
  | look p next ih => exact ih _ _
  | note n next ih =>
    have hnote := Machine.note_of_journal h n
    change (next.run Machine.world.memory).run s (m.note n) = _
    rw [hnote]
    exact ih s

end Command
end UmlPress
