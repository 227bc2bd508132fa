import UmlPress.Proofs.Calls

/-!
# A store in memory that takes no halves

A file system empties a file before it finds that no bytes can be made of the content. A
strict store in memory does the same. A plan runs on it as on any store in memory until it
writes a text with a half in it, and if it gives up at trouble that is no fault, it ends there.
-/
namespace UmlPress.Emit

namespace Sink

def strict (disk : Disk) : Sink (StateM Memory) where
  makeDirectory := (Sink.ofMemory disk).makeDirectory
  write p content := fun m =>
    match m.write p content, Text.unencodable? content.toList with
    | .error f, _ => (.error (.fault f), m)
    | .ok next, none => (.ok (), next)
    | .ok _, some why =>
      (.error (.refused p.text (.unencodable why)), m.accept (.write p "" (.ok ())))
  look := (Sink.ofMemory disk).look
  note := (Sink.ofMemory disk).note

/-- A strict store answers as any other does, unless that one takes a text with a half in it. -/
theorem strict_write_cases (disk : Disk) (p : Path) (content : String) (m : Memory) :
    (strict disk).write p content m = (Sink.ofMemory disk).write p content m ∧
        (((Sink.ofMemory disk).write p content m).1 = .ok () → Text.Encodable content.toList) ∨
      ((Sink.ofMemory disk).write p content m).1 = .ok () ∧
        ∃ why, Text.unencodable? content.toList = some why ∧ (strict disk).write p content m =
          (.error (.refused p.text (.unencodable why)), m.accept (.write p "" (.ok ()))) := by
  rw [Memory.ofMemory_write]
  simp only [strict]
  cases m.write p content with
  | error f => exact .inl ⟨rfl, nofun⟩
  | ok next =>
    cases hwhy : Text.unencodable? content.toList with
    | none => exact .inl ⟨rfl, fun _ => Text.unencodable?_eq_none_iff.1 hwhy⟩
    | some why => exact .inr ⟨rfl, why, rfl, rfl⟩

end Sink

/-- Bytes can be made of every text that calls wrote. -/
def Call.Spelled (calls : List Call) : Prop :=
  ∀ f ∈ Call.written calls, Text.Encodable f.2.toList

instance (calls : List Call) : Decidable (Call.Spelled calls) := List.decidableBAll ..

namespace Call
variable {p : Path} {content : String} {calls : List Call}

theorem spelled_write_ok :
    Spelled (.write p content (.ok ()) :: calls) ↔
      Text.Encodable content.toList ∧ Spelled calls := List.forall_mem_cons

end Call

/-- Why a text that was written cannot be: the first half in it. -/
def Call.Halts (calls : List Call) (t : Trouble) : Prop :=
  ∃ f ∈ Call.written calls, ∃ why, Text.unencodable? f.2.toList = some why ∧
    t = .refused f.1.text (.unencodable why)

namespace Plan
variable {α β : Type} {disk : Disk} {before calls : List Call} {m : Memory}
  {ends : Trouble → α → Prop}

def GivesUp (ends : Trouble → α → Prop) : Plan α → Prop
  | .done _ => True
  | .makeDirectory _ next => ∀ answer, (next answer).GivesUp ends
  | .write _ _ next => (∀ t, (∀ f, t ≠ .fault f) → ∃ a, next (.error t) = .done a ∧ ends t a) ∧
    ∀ answer, (next answer).GivesUp ends
  | .look _ next => ∀ found, (next found).GivesUp ends
  | .note _ next => next.GivesUp ends

theorem GivesUp.bind {ends' : Trouble → β → Prop} {x : Plan α} {f : α → Plan β}
    (hx : x.GivesUp ends) (hends : ∀ t a, (∀ f, t ≠ .fault f) → ends t a →
      ∃ b, f a = .done b ∧ ends' t b)
    (hf : ∀ a, (f a).GivesUp ends') : (x.bind f).GivesUp ends' := by
  induction x with
  | done a => exact hf a
  | makeDirectory p next ih => exact fun answer => ih answer (hx answer)
  | write p content next ih =>
    refine ⟨fun t ht => ?_, fun answer => ih answer (hx.2 answer)⟩
    obtain ⟨a, ha, hend⟩ := hx.1 t ht
    obtain ⟨b, hb, hend⟩ := hends t a ht hend
    refine ⟨b, ?_, hend⟩
    dsimp only
    rw [ha]
    exact hb
  | look p next ih => exact fun found => ih found (hx found)
  | note n next ih => exact ih hx

theorem givesUp_noteAll {ns : List Note} {x : Plan α} :
    (noteAll ns x).GivesUp ends ↔ x.GivesUp ends := by
  induction ns with
  | nil => rfl
  | cons n r ih => exact ih

/-- Until a text with a half in it is written, a strict store is like any other; a plan that
gives up ends at the first such text. -/
theorem run_strict (ends : Trouble → α → Prop) (x : Plan α)
    (h : ((x.run (Sink.ofMemory disk).recorded).run before m).1.2 = before ++ calls) :
    (Call.Spelled calls → x.run (Sink.strict disk) m = x.run (Sink.ofMemory disk) m) ∧
      (¬ Call.Spelled calls → x.GivesUp ends →
        ∃ t, Call.Halts calls t ∧ ends t (x.run (Sink.strict disk) m).1) := by
  induction x generalizing before calls m with
  | done a =>
    obtain rfl : calls = [] := List.append_right_eq_self.1 h.symm
    exact ⟨fun _ => rfl, fun hno => absurd (List.forall_mem_nil _) hno⟩
  | makeDirectory p next ih =>
    let r := (Sink.ofMemory disk).makeDirectory p m
    have hnext : (((next r.1).run (Sink.ofMemory disk).recorded).run
        (before ++ [.makeDirectory p r.1]) r.2).1.2 = before ++ calls := h
    obtain ⟨rest, rfl, hlog⟩ := exists_later hnext
    obtain ⟨hsame, hstop⟩ := ih _ hlog
    exact ⟨hsame, fun hno hx => hstop hno (hx _)⟩
  | write p content next ih =>
    let r := (Sink.ofMemory disk).write p content m
    have hnext : (((next r.1).run (Sink.ofMemory disk).recorded).run
        (before ++ [.write p content r.1]) r.2).1.2 = before ++ calls := h
    obtain ⟨rest, rfl, hlog⟩ := exists_later hnext
    obtain ⟨hsame, hstop⟩ := ih _ hlog
    rw [run_write, run_write]
    rcases Sink.strict_write_cases disk p content m with ⟨heq, hspelled⟩ | ⟨hok, why, hwhy, heq⟩
    · rw [heq]
      change (_ → _ = (next r.1).run (Sink.ofMemory disk) r.2) ∧ _
      cases hanswer : r.1 with
      | error t =>
        rw [hanswer] at hsame hstop
        exact ⟨hsame, fun hno hx => hstop hno (hx.2 _)⟩
      | ok u =>
        rw [hanswer] at hsame hstop
        refine ⟨fun hs => hsame (Call.spelled_write_ok.1 hs).2, fun hno hx => ?_⟩
        have hrest : ¬ Call.Spelled rest := fun hs =>
          hno (Call.spelled_write_ok.2 ⟨hspelled hanswer, hs⟩)
        obtain ⟨t, ⟨f, hf, hhalts⟩, hend⟩ := hstop hrest (hx.2 _)
        exact ⟨t, ⟨f, List.mem_cons_of_mem _ hf, hhalts⟩, hend⟩
    · have hanswer : r.1 = .ok () := hok
      rw [hanswer]
      refine ⟨fun hs => ?_, fun _ hx => ?_⟩
      · rw [Text.unencodable?_eq_none_iff.2 (Call.spelled_write_ok.1 hs).1] at hwhy
        cases hwhy
      · obtain ⟨a, ha, hend⟩ := hx.1 (.refused p.text (.unencodable why)) nofun
        rw [heq, ha]
        exact ⟨_, ⟨(p, content), List.mem_cons_self, why, hwhy, rfl⟩, hend⟩
  | look p next ih =>
    obtain ⟨hsame, hstop⟩ := ih _ h
    exact ⟨hsame, fun hno hx => hstop hno (hx _)⟩
  | note n next ih => exact ih h

end Plan
end UmlPress.Emit
