import UmlPress.Emit.Sink

/-!
# Calls on a store

A plan that is carried out calls on a store, and how it goes on depends on the
answers alone. `Yields` says how a plan can end, and with which calls, whatever
store gives the answers; `recorded` makes a store keep the calls of an actual
run. A store in memory changes only by the calls that it accepts.
-/
namespace UmlPress.Emit

inductive Call where
  | makeDirectory (p : Path) (answer : Answer)
  | write (p : Path) (content : String) (answer : Answer)

namespace Call

def written? : Call → Option (Path × String)
  | .write p content (.ok _) => some (p, content)
  | _ => none

def made? : Call → Option Path
  | .makeDirectory p (.ok _) => some p
  | _ => none

/-- The files that calls wrote, in their order and with repetitions. -/
def written (calls : List Call) : List (Path × String) := calls.filterMap written?

def made (calls : List Call) : List Path := calls.filterMap made?

@[simp] theorem written_nil : written [] = [] := rfl

@[simp] theorem written_append (xs ys : List Call) : written (xs ++ ys) = written xs ++ written ys :=
  List.filterMap_append

@[simp] theorem written_makeDirectory (p : Path) (r : Answer) (calls : List Call) :
    written (.makeDirectory p r :: calls) = written calls := rfl

@[simp] theorem written_write_ok (p : Path) (content : String) (calls : List Call) :
    written (.write p content (.ok ()) :: calls) = (p, content) :: written calls := rfl

@[simp] theorem written_write_error (p : Path) (content : String) (t : Trouble)
    (calls : List Call) : written (.write p content (.error t) :: calls) = written calls := rfl

@[simp] theorem made_nil : made [] = [] := rfl

@[simp] theorem made_append (xs ys : List Call) : made (xs ++ ys) = made xs ++ made ys :=
  List.filterMap_append

@[simp] theorem made_write (p : Path) (content : String) (r : Answer) (calls : List Call) :
    made (.write p content r :: calls) = made calls := rfl

@[simp] theorem made_makeDirectory_ok (p : Path) (calls : List Call) :
    made (.makeDirectory p (.ok ()) :: calls) = p :: made calls := rfl

@[simp] theorem made_makeDirectory_error (p : Path) (t : Trouble) (calls : List Call) :
    made (.makeDirectory p (.error t) :: calls) = made calls := rfl

end Call

def Sink.recorded {m : Type → Type} [Monad m] (s : Sink m) : Sink (StateT (List Call) m) where
  makeDirectory p := do
    let answer ← s.makeDirectory p
    modify (· ++ [.makeDirectory p answer])
    return answer
  write p content := do
    let answer ← s.write p content
    modify (· ++ [.write p content answer])
    return answer
  look p := liftM (s.look p)
  note n := liftM (s.note n)

def Sink.stepped {σ ε : Type} (s : σ) : Except ε σ → Except ε Unit × σ
  | .ok next => (.ok (), next)
  | .error f => (.error f, s)

theorem Sink.advance_apply {σ ε : Type} (step : σ → Except ε σ) (s : σ) :
    (Sink.advance step : StateM σ (Except ε Unit)) s = stepped s (step s) := by
  cases h : step s <;> simp [Sink.advance, modifyGet, MonadStateOf.modifyGet, StateT.modifyGet, h,
    stepped, pure]

structure Sink.ChangesBy {σ : Type} (s : Sink (StateM σ)) (effect : σ → Call → σ) : Prop where
  makeDirectory : ∀ p st, (s.makeDirectory p st).2 =
    effect st (.makeDirectory p (s.makeDirectory p st).1)
  write : ∀ p content st, (s.write p content st).2 =
    effect st (.write p content (s.write p content st).1)
  look : ∀ p st, (s.look p st).2 = st
  note : ∀ n st, (s.note n st).2 = st

def Sink.Answers {σ : Type} (s : Sink (StateM σ)) : Call → Prop
  | .makeDirectory p answer => ∃ st, (s.makeDirectory p st).1 = answer
  | .write p content answer => ∃ st, (s.write p content st).1 = answer

namespace Plan
variable {α β σ : Type}

section
variable {sink : Sink (StateM σ)}

theorem run_bind_apply (x : Plan α) (f : α → Plan β) (s : σ) :
    (x.bind f).run sink s = (f (x.run sink s).1).run sink (x.run sink s).2 := by
  rw [run_bind]
  rfl

theorem run_makeDirectory (p : Path) (next : Answer → Plan α) (s : σ) :
    (Plan.makeDirectory p next).run sink s =
      (next (sink.makeDirectory p s).1).run sink (sink.makeDirectory p s).2 := rfl

theorem run_write (p : Path) (content : String) (next : Answer → Plan α) (s : σ) :
    (Plan.write p content next).run sink s =
      (next (sink.write p content s).1).run sink (sink.write p content s).2 := rfl

end

inductive Yields : Plan α → List Call → α → Prop
  | done (a : α) : Yields (.done a) [] a
  | makeDirectory {p : Path} {next : Answer → Plan α} {calls : List Call} {a : α} (answer : Answer) :
    Yields (next answer) calls a →
    Yields (.makeDirectory p next) (.makeDirectory p answer :: calls) a
  | write {p : Path} {content : String} {next : Answer → Plan α} {calls : List Call} {a : α}
    (answer : Answer) : Yields (next answer) calls a →
    Yields (.write p content next) (.write p content answer :: calls) a
  | look {p : Path} {next : Found → Plan α} {calls : List Call} {a : α} (found : Found) :
    Yields (next found) calls a → Yields (.look p next) calls a
  | note {n : Note} {next : Plan α} {calls : List Call} {a : α} :
    Yields next calls a → Yields (.note n next) calls a

theorem yields_done {a b : α} {calls : List Call} :
    (Plan.done a).Yields calls b ↔ calls = [] ∧ b = a := by
  constructor
  · rintro ⟨⟩
    exact ⟨rfl, rfl⟩
  · rintro ⟨rfl, rfl⟩
    exact .done b

theorem yields_makeDirectory {p : Path} {next : Answer → Plan α} {calls : List Call} {a : α} :
    (Plan.makeDirectory p next).Yields calls a ↔
      ∃ answer rest, calls = .makeDirectory p answer :: rest ∧ (next answer).Yields rest a := by
  constructor
  · rintro (_ | ⟨answer, h⟩)
    exact ⟨answer, _, rfl, h⟩
  · rintro ⟨answer, rest, rfl, h⟩
    exact .makeDirectory answer h

theorem yields_write {p : Path} {content : String} {next : Answer → Plan α} {calls : List Call}
    {a : α} : (Plan.write p content next).Yields calls a ↔
      ∃ answer rest, calls = .write p content answer :: rest ∧ (next answer).Yields rest a := by
  constructor
  · rintro (_ | _ | ⟨answer, h⟩)
    exact ⟨answer, _, rfl, h⟩
  · rintro ⟨answer, rest, rfl, h⟩
    exact .write answer h

theorem yields_look {p : Path} {next : Found → Plan α} {calls : List Call} {a : α} :
    (Plan.look p next).Yields calls a ↔ ∃ found, (next found).Yields calls a := by
  constructor
  · rintro (_ | _ | _ | ⟨found, h⟩)
    exact ⟨found, h⟩
  · rintro ⟨found, h⟩
    exact .look found h

theorem yields_note {n : Note} {next : Plan α} {calls : List Call} {a : α} :
    (Plan.note n next).Yields calls a ↔ next.Yields calls a := by
  constructor
  · rintro (_ | _ | _ | _ | h)
    exact h
  · exact .note

theorem yields_noteAll {ns : List Note} {next : Plan α} {calls : List Call} {a : α} :
    (noteAll ns next).Yields calls a ↔ next.Yields calls a := by
  induction ns with
  | nil => rfl
  | cons n r ih => rw [noteAll, yields_note, ih]

theorem yields_bind {x : Plan α} {f : α → Plan β} {calls : List Call} {b : β} :
    (x.bind f).Yields calls b ↔
      ∃ first rest a, calls = first ++ rest ∧ x.Yields first a ∧ (f a).Yields rest b := by
  constructor
  · intro h
    induction x generalizing calls with
    | done a => exact ⟨[], calls, a, rfl, .done a, h⟩
    | makeDirectory p next ih =>
      obtain ⟨answer, later, rfl, hn⟩ := yields_makeDirectory.1 h
      obtain ⟨first, rest, a, rfl, hx, hf⟩ := ih answer hn
      exact ⟨_ :: first, rest, a, rfl, .makeDirectory answer hx, hf⟩
    | write p content next ih =>
      obtain ⟨answer, later, rfl, hn⟩ := yields_write.1 h
      obtain ⟨first, rest, a, rfl, hx, hf⟩ := ih answer hn
      exact ⟨_ :: first, rest, a, rfl, .write answer hx, hf⟩
    | look p next ih =>
      obtain ⟨found, hn⟩ := yields_look.1 h
      obtain ⟨first, rest, a, rfl, hx, hf⟩ := ih found hn
      exact ⟨first, rest, a, rfl, .look found hx, hf⟩
    | note n next ih =>
      obtain ⟨first, rest, a, rfl, hx, hf⟩ := ih (yields_note.1 h)
      exact ⟨first, rest, a, rfl, .note hx, hf⟩
  · rintro ⟨first, rest, a, rfl, hx, hf⟩
    induction hx with
    | done a => exact hf
    | makeDirectory answer _ ih => exact .makeDirectory answer (ih hf)
    | write answer _ ih => exact .write answer (ih hf)
    | look found _ ih => exact .look found (ih hf)
    | note _ ih => exact .note (ih hf)

theorem yields_map {x : Plan α} {f : α → β} {calls : List Call} {b : β} :
    (x.map f).Yields calls b ↔ ∃ a, x.Yields calls a ∧ b = f a := by
  rw [map, yields_bind]
  constructor
  · rintro ⟨first, rest, a, rfl, hx, hf⟩
    obtain ⟨rfl, rfl⟩ := yields_done.1 hf
    exact ⟨a, by rwa [List.append_nil], rfl⟩
  · rintro ⟨a, hx, rfl⟩
    exact ⟨calls, [], a, (List.append_nil _).symm, hx, .done _⟩

/-- Keeping the calls changes neither the end of a run nor the state after it.
The calls that are kept are those of the run, their answers are the store's, and
the state changes by them. -/
theorem run_recorded (sink : Sink (StateM σ)) (x : Plan α) (before : List Call) (s : σ) :
    ∃ calls, (x.run sink.recorded).run before s =
        (((x.run sink s).1, before ++ calls), (x.run sink s).2) ∧
      x.Yields calls (x.run sink s).1 ∧ (∀ c ∈ calls, sink.Answers c) ∧
      ∀ effect, sink.ChangesBy effect → (x.run sink s).2 = calls.foldl effect s := by
  induction x generalizing before s with
  | done a =>
    refine ⟨[], ?_, .done a, by simp, fun _ _ => rfl⟩
    rw [List.append_nil]
    rfl
  | makeDirectory p next ih =>
    let r := sink.makeDirectory p s
    obtain ⟨calls, hrun, hy, ha, hs⟩ := ih r.1 (before ++ [.makeDirectory p r.1]) r.2
    refine ⟨.makeDirectory p r.1 :: calls, ?_, .makeDirectory r.1 hy, ?_, ?_⟩
    · rw [List.append_assoc] at hrun
      exact hrun
    · exact List.forall_mem_cons.2 ⟨⟨s, rfl⟩, ha⟩
    · intro effect he
      rw [List.foldl_cons, ← he.makeDirectory]
      exact hs effect he
  | write p content next ih =>
    let r := sink.write p content s
    obtain ⟨calls, hrun, hy, ha, hs⟩ := ih r.1 (before ++ [.write p content r.1]) r.2
    refine ⟨.write p content r.1 :: calls, ?_, .write r.1 hy, ?_, ?_⟩
    · rw [List.append_assoc] at hrun
      exact hrun
    · exact List.forall_mem_cons.2 ⟨⟨s, rfl⟩, ha⟩
    · intro effect he
      rw [List.foldl_cons, ← he.write]
      exact hs effect he
  | look p next ih =>
    obtain ⟨calls, hrun, hy, ha, hs⟩ := ih (sink.look p s).1 before (sink.look p s).2
    refine ⟨calls, hrun, .look _ hy, ha, fun effect he => (hs effect he).trans ?_⟩
    rw [he.look]
  | note n next ih =>
    obtain ⟨calls, hrun, hy, ha, hs⟩ := ih before (sink.note n s).2
    refine ⟨calls, hrun, .note hy, ha, fun effect he => (hs effect he).trans ?_⟩
    rw [he.note]

/-- The calls after one that is kept already. -/
theorem exists_later {sink : Sink (StateM σ)} {next : Plan α} {before calls : List Call}
    {c : Call} {st : σ}
    (h : ((next.run sink.recorded).run (before ++ [c]) st).1.2 = before ++ calls) :
    ∃ rest, calls = c :: rest ∧
      ((next.run sink.recorded).run (before ++ [c]) st).1.2 = before ++ [c] ++ rest := by
  obtain ⟨rest, hrun, -⟩ := next.run_recorded sink (before ++ [c]) st
  rw [hrun] at h ⊢
  refine ⟨rest, ?_, rfl⟩
  rw [List.append_assoc] at h
  exact (List.append_cancel_left h).symm

theorem run_map (sink : Sink (StateM σ)) (x : Plan α) (f : α → β) (s : σ) :
    (x.map f).run sink s = (f (x.run sink s).1, (x.run sink s).2) := by
  rw [map, run_bind]
  rfl

theorem yields_of_run {sink : Sink (StateM σ)} {x : Plan α} {s s' : σ} {a : α}
    (h : x.run sink s = (a, s')) : ∃ calls, x.Yields calls a := by
  obtain ⟨calls, -, hy, -, -⟩ := x.run_recorded sink [] s
  rw [h] at hy
  exact ⟨calls, hy⟩

end Plan
end UmlPress.Emit

namespace UmlPress.Memory
open Emit

def accept (m : Memory) : Call → Memory
  | .makeDirectory p (.ok _) => { m with known := p :: m.known, directories := m.directories ++ [p] }
  | .write p content (.ok _) => { m with files := Keyed.put p content m.files }
  | _ => m

theorem ofMemory_makeDirectory (disk : Disk) (p : Path) (m : Memory) :
    (Sink.ofMemory disk).makeDirectory p m =
      Sink.stepped m ((m.makeDirectory p).mapError .fault) :=
  Sink.advance_apply _ m

theorem ofMemory_write (disk : Disk) (p : Path) (content : String) (m : Memory) :
    (Sink.ofMemory disk).write p content m =
      Sink.stepped m ((m.write p content).mapError .fault) :=
  Sink.advance_apply _ m

theorem eq_of_makeDirectory_eq_ok {m next : Memory} {p : Path} (h : m.makeDirectory p = .ok next) :
    next = m.accept (.makeDirectory p (.ok ())) := by
  unfold Memory.makeDirectory at h
  split at h
  · cases h
  · exact (Except.ok.inj h).symm

theorem eq_of_write_eq_ok {m next : Memory} {p : Path} {content : String}
    (h : m.write p content = .ok next) : next = m.accept (.write p content (.ok ())) := by
  unfold Memory.write Memory.writeShown at h
  split at h
  · cases h
  · split at h
    · cases h
    · exact (Except.ok.inj h).symm

theorem changesBy_accept (disk : Disk) : (Sink.ofMemory disk).ChangesBy accept where
  makeDirectory p m := by
    rw [ofMemory_makeDirectory]
    cases h : m.makeDirectory p with
    | error f => rfl
    | ok next => exact eq_of_makeDirectory_eq_ok h
  write p content m := by
    rw [ofMemory_write]
    cases h : m.write p content with
    | error f => rfl
    | ok next => exact eq_of_write_eq_ok h
  look _ _ := rfl
  note _ _ := rfl

variable (m : Memory) (calls : List Call)

theorem foldl_accept_files : (calls.foldl accept m).files = m.files.update (Call.written calls) := by
  induction calls generalizing m with
  | nil => rfl
  | cons c r ih =>
    rw [List.foldl_cons, ih]
    rcases c with ⟨p, _ | ⟨⟨⟩⟩⟩ | ⟨p, content, _ | ⟨⟨⟩⟩⟩ <;> rfl

theorem foldl_accept_directories :
    (calls.foldl accept m).directories = m.directories ++ Call.made calls := by
  induction calls generalizing m with
  | nil => simp
  | cons c r ih =>
    rw [List.foldl_cons, ih]
    rcases c with ⟨p, _ | ⟨⟨⟩⟩⟩ | ⟨p, content, _ | ⟨⟨⟩⟩⟩ <;> simp [accept]

theorem foldl_accept_known :
    (calls.foldl accept m).known = (Call.made calls).reverse ++ m.known := by
  induction calls generalizing m with
  | nil => simp
  | cons c r ih =>
    rw [List.foldl_cons, ih]
    rcases c with ⟨p, _ | ⟨⟨⟩⟩⟩ | ⟨p, content, _ | ⟨⟨⟩⟩⟩ <;> simp [accept]

end UmlPress.Memory
