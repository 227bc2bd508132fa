import UmlPress.Proofs.Calls

/-!
# What a plan is sure to end in

A plan is told backwards here, from what is wanted of its end. Stores may answer
anything but trouble that is no fault, and what is found at a directory of templates
does not change.
-/
namespace UmlPress.Emit

def Trouble.IsFault (t : Trouble) : Prop := ∃ f, t = .fault f

def Call.IsCalm : Call → Prop
  | .makeDirectory _ answer => ∀ t, answer = .error t → t.IsFault
  | .write _ _ answer => ∀ t, answer = .error t → t.IsFault

theorem isCalm_of_answers {disk : Disk} {c : Call} (h : (Sink.ofMemory disk).Answers c) :
    c.IsCalm := by
  cases c with
  | makeDirectory p answer =>
    obtain ⟨m, rfl⟩ := h
    rw [Memory.ofMemory_makeDirectory]
    cases m.makeDirectory p with
    | error f =>
      rintro t ⟨⟩
      exact ⟨f, rfl⟩
    | ok next => rintro t ⟨⟩
  | write p content answer =>
    obtain ⟨m, rfl⟩ := h
    rw [Memory.ofMemory_write]
    cases m.write p content with
    | error f =>
      rintro t ⟨⟩
      exact ⟨f, rfl⟩
    | ok next => rintro t ⟨⟩

namespace Plan
variable {α β : Type} {look : Path → Found}

def Ensures (look : Path → Found) (Q : α → Prop) : Plan α → Prop
  | .done a => Q a
  | .makeDirectory p next =>
    ∀ answer, (Call.makeDirectory p answer).IsCalm → (next answer).Ensures look Q
  | .write p content next =>
    ∀ answer, (Call.write p content answer).IsCalm → (next answer).Ensures look Q
  | .look p next => (next (look p)).Ensures look Q
  | .note _ next => next.Ensures look Q

theorem ensures_bind {x : Plan α} {f : α → Plan β} {Q : β → Prop} :
    (x.bind f).Ensures look Q ↔ x.Ensures look fun a => (f a).Ensures look Q := by
  induction x with
  | done a => rfl
  | makeDirectory p next ih => exact forall₂_congr fun answer _ => ih answer
  | write p content next ih => exact forall₂_congr fun answer _ => ih answer
  | look p next ih => exact ih (look p)
  | note n next ih => exact ih

theorem ensures_map {x : Plan α} {f : α → β} {Q : β → Prop} :
    (x.map f).Ensures look Q ↔ x.Ensures look fun a => Q (f a) := ensures_bind

theorem ensures_noteAll {ns : List Note} {x : Plan α} {Q : α → Prop} :
    (noteAll ns x).Ensures look Q ↔ x.Ensures look Q := by
  induction ns with
  | nil => rfl
  | cons n r ih => exact ih

theorem Ensures.mono {x : Plan α} {P Q : α → Prop} (h : x.Ensures look P)
    (hPQ : ∀ a, P a → Q a) : x.Ensures look Q := by
  induction x with
  | done a => exact hPQ a h
  | makeDirectory p next ih => exact fun answer ha => ih answer (h answer ha)
  | write p content next ih => exact fun answer ha => ih answer (h answer ha)
  | look p next ih => exact ih (look p) h
  | note n next ih => exact ih h

theorem Ensures.run {x : Plan α} {Q : α → Prop} {disk : Disk}
    (h : x.Ensures (Template.Folder.ofDisk disk) Q) (m : Memory) :
    Q (x.run (Sink.ofMemory disk) m).1 := by
  induction x generalizing m with
  | done a => exact h
  | makeDirectory p next ih =>
    let answer := (Sink.ofMemory disk).makeDirectory p m
    have hanswer : (Sink.ofMemory disk).Answers (.makeDirectory p answer.1) := ⟨m, rfl⟩
    exact ih answer.1 (h answer.1 (isCalm_of_answers hanswer)) answer.2
  | write p content next ih =>
    let answer := (Sink.ofMemory disk).write p content m
    have hanswer : (Sink.ofMemory disk).Answers (.write p content answer.1) := ⟨m, rfl⟩
    exact ih answer.1 (h answer.1 (isCalm_of_answers hanswer)) answer.2
  | look p next ih => exact ih _ h m
  | note n next ih => exact ih h m

end Plan
end UmlPress.Emit
