import UmlPress.Command.Run
import UmlPress.Proofs.Serves
import UmlPress.Proofs.Shows

/-!
# The course of a command

A command goes from machine to machine until it is through or aborted. What it shows and notes
on the way leaves the files of the machine alone as long as notes go to no file.
-/
namespace UmlPress.Command
variable {α β : Type} {I : Machine → Prop} {A : Abort → Prop} {Q : α → Machine → Prop}
  {R : β → Machine → Prop}

/-- From a machine of a kind, it is aborted in one of some ways or gets through with a result
and a machine as wanted. -/
def Leads (I : Machine → Prop) (x : Running (StateM Machine) α) (A : Abort → Prop)
    (Q : α → Machine → Prop) : Prop :=
  ∀ m, I m → match x.run m with
    | (.ok a, m') => Q a m'
    | (.error e, _) => A e

namespace Leads

theorem pure {a : α} (h : ∀ m, I m → Q a m) : Leads I (pure a) A Q := h

theorem throw {e : Abort} (h : A e) : Leads I (throw e) A Q := fun _ _ => h

theorem bind {x : Running (StateM Machine) α} {f : α → Running (StateM Machine) β}
    (hx : Leads I x A Q) (hf : ∀ a, Leads (Q a) (f a) A R) : Leads I (x >>= f) A R := by
  intro m hm
  have h := hx m hm
  change match (ExceptT.bindCont f (x.run m).1 : StateM Machine _) (x.run m).2 with
    | (.ok a, m') => R a m'
    | (.error e, _) => A e
  generalize x.run m = y at h ⊢
  obtain ⟨e | a, m'⟩ := y
  · exact h
  · exact hf a m' h

theorem lift {x : StateM Machine α} (h : ∀ m, I m → Q (x m).1 (x m).2) :
    Leads I (liftM x) A Q := h

theorem orAbort {ε : Type} {fail : ε → Abort} {r : Except ε α}
    (herror : ∀ e, r = .error e → A (fail e)) (hok : ∀ a, r = .ok a → ∀ m, I m → Q a m) :
    Leads I (orAbort fail r) A Q := by
  cases r with
  | error e => exact throw (herror e rfl)
  | ok a => exact pure (hok a rfl)

theorem orAbort_ok {ε : Type} {fail : ε → Abort} {r : Except ε α} {a : α} (h : r = .ok a) :
    Leads I (Command.orAbort fail r) A fun b m => b = a ∧ I m := by
  subst h
  exact pure fun m hm => ⟨rfl, hm⟩

theorem mono {I' : Machine → Prop} {x : Running (StateM Machine) α} (h : Leads I x A Q)
    (hI : ∀ m, I' m → I m) : Leads I' x A Q := fun m hm => h m (hI m hm)

/-- What does not depend on the machine may be assumed. -/
theorem assume {P : Prop} {x : Running (StateM Machine) α} (h : P → Leads I x A Q) :
    Leads (fun m => P ∧ I m) x A Q := fun m hm => h hm.1 m hm.2

end Leads

/-! Machines that are left alone. -/

structure Machine.Still (d : Disk) (m : Machine) : Prop where
  disk : m.disk = d
  journal : m.journal = none

theorem noteAll_world {m : Machine} (h : m.journal = none) (ns : List Note) :
    Machine.world.noteAll ns m = ((), m) := by
  induction ns with
  | nil => rfl
  | cons n r ih =>
    change Machine.world.noteAll r (m.note n) = _
    rw [Machine.note_of_journal h, ih]

/-- Notes that go nowhere change nothing. -/
theorem leads_noteAll {d : Disk} (ns : List Note) :
    Leads (Machine.Still d) (liftM (Machine.world.noteAll ns)) A fun _ => Machine.Still d :=
  Leads.lift fun m hm => by rwa [noteAll_world hm.journal]

theorem leads_note {d : Disk} (n : Note) :
    Leads (Machine.Still d) (liftM (Machine.world.note n)) A fun _ => Machine.Still d :=
  Leads.lift fun m hm => by
    change (m.note n).Still d
    rwa [Machine.note_of_journal hm.journal]

theorem leads_status {d : Disk} (p : Path) :
    Leads (Machine.Still d) (liftM (Machine.world.status p)) A
      fun status m => status = d.status p ∧ m.Still d :=
  Leads.lift fun m hm => by
    rw [← hm.disk]
    exact ⟨rfl, rfl, hm.journal⟩

def Printable (I : Machine → Prop) : Prop :=
  ∀ m ls, I m → I { m with printed := ls }

theorem printable_still (d : Disk) : Printable (Machine.Still d) := fun _ _ h => ⟨h.disk, h.journal⟩

theorem printable_true : Printable fun _ => True := fun _ _ h => h

/-- Ways to be aborted that take in a text that cannot be read and one that cannot be shown. -/
structure Halts (given : List String) (A : Abort → Prop) : Prop where
  markup : ∀ f, (∃ t ∈ given, '[' ∈ t.toList) → A (.halt (.markup f))
  console : ∀ why, (∃ t ∈ given, ¬ Text.Encodable t.toList) → A (.halt (.console why))

theorem encodable_printed {ls : List (List Char)} (h : ∀ l ∈ ls, Text.Encodable l) :
    Text.Encodable (ls.flatMap (· ++ ['\n'])) := by
  intro c hc
  obtain ⟨l, hl, hc⟩ := List.mem_flatMap.1 hc
  exact ((h l hl).append (by decide)) c hc

theorem Machine.not_encodable_of_print {m : Machine} {ls : List (List Char)}
    {why : Text.Unencodable} (h : (m.print ls).1 = .error why) : ¬ ∀ l ∈ ls, Text.Encodable l := by
  intro hls
  unfold Machine.print at h
  rw [Text.unencodable?_eq_none_iff.2 (encodable_printed hls)] at h
  cases h

theorem Printable.print (hI : Printable I) {m : Machine} (hm : I m) (ls : List (List Char)) :
    I (m.print ls).2 := by
  unfold Machine.print
  split
  · exact hm
  · exact hI m _ hm

theorem leads_print (hI : Printable I) {ls : List (List Char)} :
    Leads I (liftM (Machine.world.print ls)) A fun r m =>
      (∀ why, r = .error why → ¬ ∀ l ∈ ls, Text.Encodable l) ∧ I m :=
  Leads.lift fun _ hm => ⟨fun _ => Machine.not_encodable_of_print, hI.print hm ls⟩

section
variable {given : List String} (hI : Printable I) (hA : Halts given A)
include hI hA

theorem leads_showLines {s : Shown} (h : Shows given s) :
    Leads I (showLines Machine.world s) A fun _ => I := by
  cases s with
  | ok ls =>
    refine (leads_print hI).bind fun r => Leads.assume fun hr => ?_
    refine Leads.orAbort (fun why hwhy => hA.console why ?_) fun _ _ _ hm => hm
    by_contra! hgiven
    exact hr why hwhy (h.whole ls rfl hgiven)
  | error f => exact Leads.throw (hA.markup f (h.fault f rfl))

theorem leads_showAll {ss : List Shown} (h : ∀ s ∈ ss, Shows given s) :
    Leads I (showAll Machine.world ss) A fun _ => I := by
  induction ss with
  | nil => exact Leads.pure fun _ hm => hm
  | cons s r ih =>
    obtain ⟨hs, hr⟩ := List.forall_mem_cons.1 h
    exact (leads_showLines hI hA hs).bind fun _ => ih hr

end

theorem leads_showReport {given : List String} {r : Emit.Report} (h : r.Stems given)
    (hA : Halts given A) :
    Leads (fun _ => True) (showReport Machine.world r) A fun code _ => code = 0 ∨ code = 1 := by
  have hcounts : Shows given (shownCounts r) := shows_counts r
  unfold showReport
  -- The line of the counts is not to be computed.
  generalize shownCounts r = counts at hcounts
  refine (leads_showLines printable_true hA (shows_generated h)).bind fun _ => ?_
  refine (leads_showLines printable_true hA (shows_failures h)).bind fun _ => ?_
  refine (leads_showLines printable_true hA hcounts).bind fun _ => ?_
  refine Leads.pure fun _ _ => ?_
  split
  · exact .inl rfl
  · exact .inr rfl

end UmlPress.Command
