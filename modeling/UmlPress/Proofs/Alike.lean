import Mathlib.Data.Option.Basic
import UmlPress.Proofs.Index

/-!
# Models that look alike

From a model only three things are ever asked: the element that has an id, the
owner of an element, and the relationships. Two models that give alike answers, up
to where the elements stand, give every element the same paths, and let it inherit
from elements of the same names by the same paths.
-/
namespace UmlPress

def Target.bare (t : Target) : Target :=
  ⟨⟨[], .node ⟨.null, t.spot.element.name, .null⟩ .unsupported []⟩, t.path⟩

namespace Snapshot

structure Alike (s s' : Snapshot) (o o' : Spot) : Prop where
  id : o'.element.id = o.element.id
  name : o'.element.name = o.element.name
  base : o'.steps = s'.base.steps ↔ o.steps = s.base.steps

structure Like (s s' : Snapshot) : Prop where
  length : s'.index.length = s.index.length
  edges : s'.edges = s.edges
  find : ∀ id, Option.Rel (s.Alike s') (s.find? id) (s'.find? id)
  owner : ∀ {e e' : Element}, e'.id = e.id →
    Option.Rel (s.Alike s') (s.ownerOf? e) (s'.ownerOf? e')

namespace Like
variable {s s' : Snapshot} {e e' : Element}

/-- The owners up to a place have the same names. -/
theorem ownersUntil (h : s.Like s') {stop stop' : Spot → Bool}
    (hstop : ∀ o o', s.Alike s' o o' → stop' o' = stop o) (n : Nat) (hid : e'.id = e.id) :
    (s'.ownersUntil stop' n e').map (List.map Element.name) =
      (s.ownersUntil stop n e).map (List.map Element.name) := by
  induction n generalizing e e' with
  | zero => rfl
  | succ n ih =>
    have howner := h.owner hid
    rw [Snapshot.ownersUntil, Snapshot.ownersUntil]
    generalize s.ownerOf? e = found at howner ⊢
    generalize s'.ownerOf? e' = found' at howner ⊢
    cases howner with
    | none => rfl
    | @some o o' ho =>
      have hrest := congrArg (Option.map (o.element.name :: ·)) (ih ho.id)
      rw [Option.map_map, Option.map_map] at hrest
      simp only [hstop o o' ho]
      split
      · rfl
      · simpa [Function.comp_def, ho.name] using hrest

theorem ownersWithin (h : s.Like s') {stop stop' : Spot → Bool}
    (hstop : ∀ o o', s.Alike s' o o' → stop' o' = stop o) (hid : e'.id = e.id) :
    (s'.ownersWithin stop' e').map (List.map Element.name) =
      (s.ownersWithin stop e).map (List.map Element.name) := by
  have hnames := h.ownersUntil hstop (s.index.length + 1) hid
  unfold Snapshot.ownersWithin
  rw [h.length]
  generalize s.ownersUntil stop (s.index.length + 1) e = owners at hnames ⊢
  generalize s'.ownersUntil stop' (s.index.length + 1) e' = owners' at hnames ⊢
  cases owners <;> cases owners' <;> simp_all [Except.map]

theorem qualifiedPath (h : s.Like s') (hid : e'.id = e.id) (hname : e'.name = e.name) :
    s'.qualifiedPath e' = s.qualifiedPath e := by
  have hwithin : (s'.ownersWithin (fun o => o.steps = s'.base.steps) e').map (List.map Element.name) =
      (s.ownersWithin (fun o => o.steps = s.base.steps) e).map (List.map Element.name) :=
    h.ownersWithin (fun o o' ho => by simp [ho.base]) hid
  unfold Snapshot.qualifiedPath
  rw [hname]
  generalize s.ownersWithin (fun o => o.steps = s.base.steps) e = owners at hwithin ⊢
  generalize s'.ownersWithin (fun o => o.steps = s'.base.steps) e' = owners' at hwithin ⊢
  cases owners <;> cases owners' <;> simp_all [Except.map]

theorem displayPath (h : s.Like s') (hid : e'.id = e.id) (hname : e'.name = e.name) :
    s'.displayPath e' = s.displayPath e := by
  have hwithin : (s'.ownersWithin (fun _ => false) e').map (List.map Element.name) =
      (s.ownersWithin (fun _ => false) e).map (List.map Element.name) :=
    h.ownersWithin (fun _ _ _ => rfl) hid
  unfold Snapshot.displayPath ancestors
  rw [hname]
  generalize s.ownersWithin (fun _ => false) e = owners at hwithin ⊢
  generalize s'.ownersWithin (fun _ => false) e' = owners' at hwithin ⊢
  cases owners <;> cases owners' <;> simp_all [Except.map, bind, Except.bind]

theorem bare_cons (t : Target) (r : Except Misuse (Except Emit.Fault (List Target))) :
    (r.bind fun ts => .ok (ts.map (t :: ·))).map (Except.map (List.map Target.bare)) =
      (r.map (Except.map (List.map Target.bare))).map (Except.map (t.bare :: ·)) := by
  rcases r with misuse | f | ts <;> rfl

/-- An element inherits from elements of the same names by the same paths. -/
theorem targetsOf (h : s.Like s') (hid : e'.id = e.id) (hname : e'.name = e.name)
    (edges : List Edge) : (s'.targetsOf e' edges).map (Except.map (List.map Target.bare)) =
      (s.targetsOf e edges).map (Except.map (List.map Target.bare)) := by
  induction edges with
  | nil => rfl
  | cons edge r ih =>
    rw [Snapshot.targetsOf, Snapshot.targetsOf, hid, hname]
    split
    · unfold Snapshot.find
      cases edge.target.asKey with
      | error misuse => rfl
      | ok id =>
        have hfind := h.find id
        show Except.map _ (Except.bind (.ok (s'.find? id)) _) =
          Except.map _ (Except.bind (.ok (s.find? id)) _)
        generalize s.find? id = found at hfind ⊢
        generalize s'.find? id = found' at hfind ⊢
        cases hfind with
        | none => rfl
        | @some o o' ho =>
          have hpath := h.qualifiedPath ho.id ho.name
          have hbare (path : List Json) : Target.bare ⟨o', path⟩ = Target.bare ⟨o, path⟩ := by
            rw [Target.bare, Target.bare, ho.name]
          simp only [Except.bind, hpath]
          cases s.qualifiedPath o.element with
          | error misuse => rfl
          | ok path =>
            refine (bare_cons ⟨o', path⟩ (s'.targetsOf e' r)).trans ?_
            rw [ih, hbare]
            exact (bare_cons ⟨o, path⟩ (s.targetsOf e r)).symm
    · exact ih

theorem targets (h : s.Like s') (hid : e'.id = e.id) (hname : e'.name = e.name) :
    (s'.targets e').map (Except.map (List.map Target.bare)) =
      (s.targets e).map (Except.map (List.map Target.bare)) := by
  rw [Snapshot.targets, Snapshot.targets, h.edges]
  exact h.targetsOf hid hname s.edges

end Like
end Snapshot
end UmlPress
