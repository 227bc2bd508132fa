import UmlPress.Proofs.Printing

/-!
# Steps side by side

Two steps that compose a page are taken on sheets of their own. The sheet of the second
one may stand some levels deeper, and the second one may write blocks of lines where the
first writes nothing. Side by side they end alike, and the second has the lines of the
first, moved in by as many levels, with the blocks between them.
-/
namespace UmlPress

inductive Inserted : List (List String) → List String → List String → Prop
  | nil : Inserted [] [] []
  | line {blocks ls ms} (l : String) : Inserted blocks ls ms → Inserted blocks (l :: ls) (l :: ms)
  | block {blocks ls ms} (b : List String) :
    Inserted blocks ls ms → Inserted (b :: blocks) ls (b ++ ms)

namespace Inserted
variable {blocks blocks' : List (List String)} {ls ls' ms ms' : List String}

theorem refl (ls : List String) : Inserted [] ls ls := by
  induction ls with
  | nil => exact .nil
  | cons l r ih => exact .line l ih

theorem append (h : Inserted blocks ls ms) (h' : Inserted blocks' ls' ms') :
    Inserted (blocks ++ blocks') (ls ++ ls') (ms ++ ms') := by
  induction h with
  | nil => exact h'
  | line l _ ih => exact .line l ih
  | block b _ ih =>
    rw [List.append_assoc]
    exact .block b ih

theorem single (b : List String) : Inserted [b] [] b := by
  have h := Inserted.block b .nil
  rwa [List.append_nil] at h

/-- Blocks without lines leave nothing behind. -/
theorem eq_of_forall_nil (h : Inserted blocks ls ms) (hempty : ∀ b ∈ blocks, b = []) :
    ms = ls := by
  induction h with
  | nil => rfl
  | line l _ ih => rw [ih hempty]
  | block b _ ih =>
    obtain ⟨rfl, hrest⟩ := List.forall_mem_cons.1 hempty
    exact ih hrest

end Inserted

theorem Layout.insetBy_insetBy (unit : String) (k d : Nat) (ls : List String) :
    insetBy unit k (insetBy unit d ls) = insetBy unit (d + k) ls := by
  induction d generalizing ls with
  | zero => rw [insetBy, Nat.zero_add]
  | succ d ih => rw [insetBy, ih, Nat.succ_add, insetBy]

namespace Emit.Composing
open Layout
variable {α β : Type} {unit : String} {k d d' d'' : Nat}

/-- Whatever stands on the sheet, a step ends as told, appends lines and stops at a depth.
What a step prints it appends, ending well. -/
def Appends (unit : String) (d : Nat) (x : Composing α) (r : Except Trouble α)
    (ls : List String) (d' : Nat) : Prop :=
  ∀ lines notes supply, ∃ notes' supply',
    x.run.run ⟨⟨unit, d, lines⟩, notes, supply, .ok none⟩ =
      (r, ⟨⟨unit, d', lines ++ ls⟩, notes', supply', .ok none⟩)

namespace Appends
variable {x : Composing α} {f : α → Composing β} {ls ms : List String}

theorem bind_ok {a : α} {r : Except Trouble β} (hx : Appends unit d x (.ok a) ls d')
    (hf : Appends unit d' (f a) r ms d'') : Appends unit d (x >>= f) r (ls ++ ms) d'' := by
  intro lines notes supply
  obtain ⟨notes', supply', hx⟩ := hx lines notes supply
  obtain ⟨notes'', supply'', hf⟩ := hf (lines ++ ls) notes' supply'
  refine ⟨notes'', supply'', ?_⟩
  rw [run_bind, hx]
  dsimp only
  rw [hf, List.append_assoc]

theorem bind_error {t : Trouble} (hx : Appends unit d x (.error t) ls d') :
    Appends unit d (x >>= f) (.error t) ls d' := by
  intro lines notes supply
  obtain ⟨notes', supply', hx⟩ := hx lines notes supply
  refine ⟨notes', supply', ?_⟩
  rw [run_bind, hx]

/-- A step that leaves the lines of the sheet as they are. -/
theorem of_run {r : Except Trouble α} (h : ∀ lines notes supply, ∃ notes',
    x.run.run ⟨⟨unit, d, lines⟩, notes, supply, .ok none⟩ =
      (r, ⟨⟨unit, d', lines⟩, notes', supply, .ok none⟩)) : Appends unit d x r [] d' := by
  intro lines notes supply
  obtain ⟨notes', hrun⟩ := h lines notes supply
  refine ⟨notes', supply, ?_⟩
  rw [List.append_nil, hrun]

theorem pure (a : α) : Appends unit d (Pure.pure a) (.ok a) [] d :=
  of_run fun _ notes _ => ⟨notes, rfl⟩

theorem throw (t : Trouble) : Appends unit d (MonadExcept.throw t : Composing α) (.error t) [] d :=
  of_run fun _ notes _ => ⟨notes, rfl⟩

end Appends

/-- Two steps, the second one `k` levels deeper, end alike, at depths that are `k` levels
apart. What the second appends is what the first does, moved in, with blocks put between
the lines: all of them, or the first few if there is trouble. -/
def Abreast (unit : String) (k d : Nat) (x y : Composing α) (blocks : List (List String))
    (d' : Nat) : Prop :=
  ∃ r ls ms used e, Appends unit d x r ls e ∧ Appends unit (d + k) y r ms (e + k) ∧
    Inserted used (insetBy unit k ls) ms ∧ used <+: blocks ∧
    ∀ a, r = .ok a → e = d' ∧ used = blocks

namespace Abreast
variable {x y : Composing α} {f g : α → Composing β} {blocks blocks' : List (List String)}

theorem of_eq (h : Abreast unit k d x y blocks d') (heq : blocks = blocks') :
    Abreast unit k d x y blocks' d' :=
  heq ▸ h

theorem bind (hx : Abreast unit k d x y blocks d')
    (hf : ∀ a, Abreast unit k d' (f a) (g a) blocks' d'') :
    Abreast unit k d (x >>= f) (y >>= g) (blocks ++ blocks') d'' := by
  obtain ⟨r, ls, ms, used, e, hx, hy, hins, hused, hend⟩ := hx
  cases r with
  | error t =>
    have hprefix : used <+: blocks ++ blocks' := hused.trans (List.prefix_append _ _)
    exact ⟨.error t, ls, ms, used, e, hx.bind_error, hy.bind_error, hins, hprefix,
      by rintro a ⟨⟩⟩
  | ok a =>
    obtain ⟨rfl, rfl⟩ := hend a rfl
    obtain ⟨r', ls', ms', used', e', hf, hg, hins', hused', hend'⟩ := hf a
    refine ⟨r', ls ++ ls', ms ++ ms', used ++ used', e', hx.bind_ok hf, hy.bind_ok hg, ?_,
      List.prefix_append_right_inj _ |>.2 hused', fun b hb => ?_⟩
    · rw [insetBy_append]
      exact hins.append hins'
    · obtain ⟨rfl, rfl⟩ := hend' b hb
      exact ⟨rfl, rfl⟩

/-- A step without blocks, and what comes after it. -/
theorem next (hx : Abreast unit k d x y [] d')
    (hf : ∀ a, Abreast unit k d' (f a) (g a) blocks d'') :
    Abreast unit k d (x >>= f) (y >>= g) blocks d'' :=
  hx.bind hf

/-- A step on both sides that appends the same lines at its own depth. -/
theorem of_appends {r : Except Trouble α} {ls : List String}
    (hx : Appends unit d x r (insetBy unit d ls) d)
    (hy : Appends unit (d + k) y r (insetBy unit (d + k) ls) (d + k)) :
    Abreast unit k d x y [] d := by
  refine ⟨r, _, _, [], d, hx, hy, ?_, List.nil_prefix, fun _ _ => ⟨rfl, rfl⟩⟩
  rw [insetBy_insetBy]
  exact .refl _

/-- A step on both sides that leaves the lines as they are. -/
theorem of_still {r : Except Trouble α} (hx : Appends unit d x r [] d')
    (hy : Appends unit (d + k) y r [] (d' + k)) : Abreast unit k d x y [] d' := by
  refine ⟨r, [], [], [], d', hx, hy, ?_, List.nil_prefix, fun _ _ => ⟨rfl, rfl⟩⟩
  rw [insetBy_nil]
  exact .nil

/-- The second side alone writes a block. -/
theorem of_block {a : α} {b : List String} (hx : Appends unit d x (.ok a) [] d)
    (hy : Appends unit (d + k) y (.ok a) b (d + k)) : Abreast unit k d x y [b] d := by
  refine ⟨.ok a, [], b, [b], d, hx, hy, ?_, List.prefix_rfl, fun _ _ => ⟨rfl, rfl⟩⟩
  rw [insetBy_nil]
  exact .single b

/-- Trouble on both sides, whatever was to come. -/
theorem of_trouble (t : Trouble) (blocks : List (List String)) :
    Abreast unit k d ((throw t : Composing α) >>= f) (throw t >>= g) blocks d' := by
  refine ⟨.error t, [], [], [], d, (Appends.throw t).bind_error, (Appends.throw t).bind_error, ?_,
    List.nil_prefix, by rintro a ⟨⟩⟩
  rw [insetBy_nil]
  exact .nil

theorem pure (a : α) : Abreast unit k d (Pure.pure a) (Pure.pure a) [] d :=
  of_still (.pure a) (.pure a)

theorem ofMisuse (r : Except Misuse α) :
    Abreast unit k d (Composing.ofMisuse r) (Composing.ofMisuse r) [] d := by
  cases r with
  | ok a => exact .pure a
  | error m => exact of_still (.throw _) (.throw _)

/-- A note on the first side alone. -/
theorem noted_left (n : Note) (h : Abreast unit k d x y blocks d') :
    Abreast unit k d (note n >>= fun _ => x) y blocks d' := by
  have hnote : Abreast unit k d (note n) (Pure.pure ()) [] d :=
    of_still (Prints.note n) (.pure ())
  have hnoted := hnote.next fun _ => h
  rwa [pure_bind] at hnoted

theorem noted_right (n : Note) (h : Abreast unit k d x y blocks d') :
    Abreast unit k d x (note n >>= fun _ => y) blocks d' := by
  have hnote : Abreast unit k d (Pure.pure ()) (note n) [] d :=
    of_still (.pure ()) (Prints.note n)
  have hnoted := hnote.next fun _ => h
  rwa [pure_bind] at hnoted

theorem line (s : String) : Abreast unit k d (Composing.line s) (Composing.line s) [] d :=
  of_appends (Prints.line s) (Prints.line s)

theorem skip : Abreast unit k d Composing.skip Composing.skip [] d := line ""

theorem indent : Abreast unit k d Composing.indent Composing.indent [] (d + 1) := by
  have hbelow : Prints unit (d + k) Composing.indent [] (d + k + 1) := .indent
  rw [Nat.add_right_comm] at hbelow
  exact of_still Prints.indent hbelow

theorem outdent : Abreast unit k (d + 1) Composing.outdent Composing.outdent [] d := by
  have hbelow : Prints unit (d + k + 1) Composing.outdent [] (d + k) := .outdent
  rw [Nat.add_right_comm] at hbelow
  exact of_still Prints.outdent hbelow

/-- Without blocks, the second step appends just what the first does, moved in. -/
theorem moved (h : Abreast unit k d x y [] d') :
    ∃ r ls e, Appends unit d x r ls e ∧ Appends unit (d + k) y r (insetBy unit k ls) (e + k) ∧
      ∀ a, r = .ok a → e = d' := by
  obtain ⟨r, ls, ms, used, e, hx, hy, hins, hused, hend⟩ := h
  have hnone : used = [] := List.prefix_nil.1 hused
  have hmoved : ms = insetBy unit k ls := hins.eq_of_forall_nil (by simp [hnone])
  rw [hmoved] at hy
  exact ⟨r, ls, e, hx, hy, fun a ha => (hend a ha).1⟩

theorem run_eq {sheet : Sheet} (h : Abreast sheet.unit 0 sheet.depth x y [] d')
    (notes notes' : List Note) (supply supply' : Supply) :
    let first := x.run.run ⟨sheet, notes, supply, .ok none⟩
    let second := y.run.run ⟨sheet, notes', supply', .ok none⟩
    first.1 = second.1 ∧ first.2.sheet = second.2.sheet := by
  obtain ⟨r, ls, e, hx, hy, -⟩ := h.moved
  obtain ⟨_, _, hfirst⟩ := hx sheet.lines notes supply
  obtain ⟨_, _, hsecond⟩ := hy sheet.lines notes' supply'
  simp only [Nat.add_zero, insetBy] at hsecond
  exact ⟨by rw [hfirst, hsecond], by rw [hfirst, hsecond]⟩

end Abreast
end Emit.Composing

end UmlPress
