import UmlPress.Emit.Report
import UmlPress.Journal

/-!
# Plans

A plan says which directories to make, which files to write and where to look
for templates, and how to go on from the answers. It can be carried out on any
store.
-/
namespace UmlPress.Emit

abbrev Answer := Except Trouble Unit

/-- The templates of a directory, if it is one. -/
abbrev Found := Except Disk.Refusal (Option Template.Folder)

inductive Plan (α : Type) where
  | done (a : α)
  | makeDirectory (p : Path) (next : Answer → Plan α)
  | write (p : Path) (content : String) (next : Answer → Plan α)
  | look (p : Path) (next : Found → Plan α)
  | note (n : Note) (next : Plan α)

namespace Plan
variable {α β : Type}

def bind (x : Plan α) (f : α → Plan β) : Plan β :=
  match x with
  | .done a => f a
  | .makeDirectory p next => .makeDirectory p fun r => (next r).bind f
  | .write p content next => .write p content fun r => (next r).bind f
  | .look p next => .look p fun r => (next r).bind f
  | .note n next => .note n (next.bind f)

/-- Changes what a plan ends in. -/
def map (f : α → β) (x : Plan α) : Plan β := x.bind fun a => .done (f a)

instance : Monad Plan where
  pure := .done
  bind := .bind

/-- Keeps notes in their order. -/
def noteAll (ns : List Note) (next : Plan α) : Plan α :=
  match ns with
  | [] => next
  | n :: r => .note n (noteAll r next)

end Plan

/-- A store that plans can be carried out on. -/
structure Sink (m : Type → Type) where
  makeDirectory : Path → m Answer
  write : Path → String → m Answer
  look : Path → m Found
  note : Note → m Unit

def Plan.run {m : Type → Type} [Monad m] {α : Type} (sink : Sink m) : Plan α → m α
  | .done a => pure a
  | .makeDirectory p next => do (next (← sink.makeDirectory p)).run sink
  | .write p content next => do (next (← sink.write p content)).run sink
  | .look p next => do (next (← sink.look p)).run sink
  | .note n next => do
    sink.note n
    next.run sink

namespace Plan
variable {α β : Type}

theorem bind_assoc {γ : Type} (x : Plan α) (f : α → Plan β) (g : β → Plan γ) :
    (x.bind f).bind g = x.bind fun a => (f a).bind g := by
  induction x with
  | done a => rfl
  | makeDirectory p next ih => simp [bind, ih]
  | write p content next ih => simp [bind, ih]
  | look p next ih => simp [bind, ih]
  | note n next ih => simp [bind, ih]

theorem bind_done_right (x : Plan α) : x.bind .done = x := by
  induction x with
  | done a => rfl
  | makeDirectory p next ih => simp [bind, ih]
  | write p content next ih => simp [bind, ih]
  | look p next ih => simp [bind, ih]
  | note n next ih => simp [bind, ih]

theorem map_bind {γ : Type} (x : Plan α) (f : α → Plan β) (g : β → γ) :
    (x.bind f).map g = x.bind fun a => (f a).map g := bind_assoc x f _

theorem bind_map {γ : Type} (x : Plan α) (f : α → β) (g : β → Plan γ) :
    (x.map f).bind g = x.bind fun a => g (f a) := bind_assoc x _ g

theorem run_bind {m : Type → Type} [Monad m] [LawfulMonad m] (sink : Sink m) (x : Plan α)
    (f : α → Plan β) : (x.bind f).run sink = x.run sink >>= fun a => (f a).run sink := by
  induction x with
  | done a => simp [bind, run]
  | makeDirectory p next ih => simp [bind, run, ih]
  | write p content next ih => simp [bind, run, ih]
  | look p next ih => simp [bind, run, ih]
  | note n next ih => simp [bind, run, ih]

end Plan
end UmlPress.Emit
