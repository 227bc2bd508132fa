import UmlPress.Proofs.Snippets

/-!
# Variables that are not read

What a template writes does not depend on a variable that it does not read, and whether
it reads one can be seen in its tree. Only the kinds of nodes and expressions that the
templates in stock are made of are looked into; any other may read everything.
-/
namespace UmlPress.Template

def Scope.AgreeOff (x : String) (s s' : Scope) : Prop := ∀ y ≠ x, s.get? y = s'.get? y

theorem Scope.AgreeOff.cons {x : String} {s s' : Scope} (h : s.AgreeOff x s')
    (frame : Keyed String Value) : AgreeOff x (frame :: s) (frame :: s') := by
  intro y hy
  rw [Scope.get?, Scope.get?, h y hy]

mutual

def Expr.ignores (x : String) : Expr → Bool
  | .constant _ => true
  | .name y => y != x
  | .list items => ignoresAll x items
  | .item e index => e.ignores x && index.ignores x
  | .filter e _ args => e.ignores x && ignoresArgs x args
  | .arithmetic _ a b => a.ignores x && b.ignores x
  | .compare e rest => e.ignores x && ignoresRest x rest
  | _ => false

def ignoresAll (x : String) : List Expr → Bool
  | [] => true
  | e :: r => e.ignores x && ignoresAll x r

def ignoresArgs (x : String) : List (Option String × Expr) → Bool
  | [] => true
  | (_, e) :: r => e.ignores x && ignoresArgs x r

def ignoresRest (x : String) : List (Comparison × Expr) → Bool
  | [] => true
  | (_, e) :: r => e.ignores x && ignoresRest x r

end

mutual

def Node.ignores (x : String) : Node → Bool
  | .text _ => true
  | .print e => e.ignores x
  | .branch condition body otherwise =>
    condition.ignores x && ignoresTree x body && ignoresTree x otherwise
  | .loop (.name _) iterated none body otherwise =>
    iterated.ignores x && ignoresTree x body && ignoresTree x otherwise
  | _ => false

def ignoresTree (x : String) : List Node → Bool
  | [] => true
  | n :: r => n.ignores x && ignoresTree x r

end

section
variable {x : String} {s s' : Scope} (setting : Setting)

/-- The value of an expression, of the rest of a comparison, of arguments and of items is
the same whatever a variable is that they do not read. -/
theorem eval_congr (h : s.AgreeOff x s') :
    (∀ e : Expr, e.ignores x = true → e.eval setting s = e.eval setting s') ∧
    (∀ rest, ignoresRest x rest = true → ∀ v,
      evalRest setting s v rest = evalRest setting s' v rest) ∧
    (∀ args, ignoresArgs x args = true → evalArgs setting s args = evalArgs setting s' args) ∧
    (∀ items, ignoresAll x items = true →
      evalAll setting s items = evalAll setting s' items) := by
  apply Expr.ignores.mutual_induct
  case case1 => exact fun v _ => rfl
  case case2 =>
    intro y hy
    have hne : y ≠ x := by simpa [Expr.ignores] using hy
    rw [Expr.eval, Expr.eval, Setting.lookUp, Setting.lookUp, h y hne]
  case case3 =>
    intro items ih hi
    rw [Expr.ignores] at hi
    rw [Expr.eval, Expr.eval, ih hi]
  case case4 =>
    intro e index he hindex hi
    rw [Expr.ignores, Bool.and_eq_true] at hi
    rw [Expr.eval, Expr.eval, he hi.1, hindex hi.2]
  case case5 =>
    intro e name args he hargs hi
    rw [Expr.ignores, Bool.and_eq_true] at hi
    rw [Expr.eval, Expr.eval, he hi.1, hargs hi.2]
  case case6 =>
    intro op a b ha hb hi
    rw [Expr.ignores, Bool.and_eq_true] at hi
    rw [Expr.eval, Expr.eval, ha hi.1, hb hi.2]
  case case7 =>
    intro e rest he hrest hi
    rw [Expr.ignores, Bool.and_eq_true] at hi
    rw [Expr.eval, Expr.eval, he hi.1]
    exact congrArg _ (funext fun v => hrest hi.2 v)
  case case8 =>
    -- an expression of another kind, which may read everything
    intro e _ _ _ _ _ _ _ hi
    simp [Expr.ignores] at hi
  case case9 => exact fun _ => rfl
  case case10 =>
    intro e r he hr hi
    rw [ignoresAll, Bool.and_eq_true] at hi
    rw [evalAll, evalAll, he hi.1, hr hi.2]
  case case11 => exact fun _ => rfl
  case case12 =>
    intro name e r he hr hi
    rw [ignoresArgs, Bool.and_eq_true] at hi
    rw [evalArgs, evalArgs, he hi.1, hr hi.2]
  case case13 => exact fun _ _ => rfl
  case case14 =>
    intro op e r he hr hi v
    rw [ignoresRest, Bool.and_eq_true] at hi
    rw [evalRest, evalRest, he hi.1]
    simp only [hr hi.2]

theorem passing_none (scope : Scope) (target : Target) (items : List Value) :
    passing setting scope target none items = (items, none) := by
  cases items <;> rfl

/-- The passes of a loop over one name, if its body writes the same in scopes that agree. -/
theorem passes_congr {inclusion : Inclusion} {body : Tree}
    (hbody : ∀ s s' : Scope, s.AgreeOff x s' → renderAll inclusion setting body s' =
      (renderAll inclusion setting body s).map fun p => (p.1, s'))
    (y : String) (h : s.AgreeOff x s') (frame : Nat → Keyed String Value)
    (items : List (Value × Nat)) :
    (items.mapM fun p => do
      let inner ← (Target.name y).bind p.1 (frame p.2 :: s')
      return (← renderAll inclusion setting body inner).1 : Outcome (List String)) =
    items.mapM fun p => do
      let inner ← (Target.name y).bind p.1 (frame p.2 :: s)
      return (← renderAll inclusion setting body inner).1 := by
  congr 1
  funext p
  have hpass := hbody _ _ (h.cons (Keyed.put y p.1 (frame p.2)))
  show (renderAll inclusion setting body (Keyed.put y p.1 (frame p.2) :: s')).bind _ =
    (renderAll inclusion setting body (Keyed.put y p.1 (frame p.2) :: s)).bind _
  rw [hpass]
  cases renderAll inclusion setting body (Keyed.put y p.1 (frame p.2) :: s) <;> rfl

/-- What a node or a tree writes is the same whatever a variable is that it does not read,
and it leaves all variables as they are. -/
theorem render_congr (inclusion : Inclusion) :
    (∀ n : Node, n.ignores x = true → ∀ s s' : Scope, s.AgreeOff x s' →
      n.render inclusion setting s' = (n.render inclusion setting s).map fun p => (p.1, s')) ∧
    (∀ tree, ignoresTree x tree = true → ∀ s s' : Scope, s.AgreeOff x s' →
      renderAll inclusion setting tree s' =
        (renderAll inclusion setting tree s).map fun p => (p.1, s')) := by
  apply Node.ignores.mutual_induct
  case case1 => exact fun text _ s s' _ => rfl
  case case2 =>
    intro e he s s' h
    rw [Node.render, Node.render, (eval_congr setting h).1 e he]
    cases e.eval setting s' with
    | error f => rfl
    | ok v =>
      show (setting.printed v).map _ = ((setting.printed v).map _).map _
      cases setting.printed v <;> rfl
  case case3 =>
    intro condition body otherwise hbody hotherwise hi s s' h
    rw [Node.ignores, Bool.and_eq_true, Bool.and_eq_true] at hi
    rw [Node.render, Node.render, (eval_congr setting h).1 condition hi.1.1,
      hbody hi.1.2 s s' h, hotherwise hi.2 s s' h]
    cases condition.eval setting s' with
    | error f => rfl
    | ok v =>
      simp only [bind, Except.bind]
      cases v.truth with
      | error f => rfl
      | ok b => cases b <;> rfl
  case case4 =>
    intro y iterated body otherwise hbody hotherwise hi s s' h
    rw [Node.ignores, Bool.and_eq_true, Bool.and_eq_true] at hi
    have hpasses := passes_congr setting (hbody hi.1.2) y h
    rw [Node.render, Node.render, (eval_congr setting h).1 iterated hi.1.1]
    simp only [passing_none]
    cases iterated.eval setting s' with
    | error f => rfl
    | ok v =>
      simp only [bind, Except.bind] at hpasses ⊢
      cases v.iterate with
      | error f => rfl
      | ok items =>
        simp only
        split
        · rw [hotherwise hi.2 s.nested s'.nested (h.cons [])]
          cases renderAll inclusion setting otherwise s.nested <;> rfl
        · rw [hpasses fun n => if mentionsLoop body then [("loop", .loop n items)] else []]
          generalize (List.mapM _ items.zipIdx : Outcome (List String)) = texts
          cases texts <;> rfl
  case case5 =>
    intro n _ _ _ _ hi
    simp [Node.ignores] at hi
  case case6 => exact fun _ s s' _ => rfl
  case case7 =>
    intro n r hn hr hi s s' h
    rw [ignoresTree, Bool.and_eq_true] at hi
    have hsame := hn hi.1 s s fun _ _ => rfl
    rw [renderAll_cons, renderAll_cons, hn hi.1 s s' h]
    cases hfirst : n.render inclusion setting s with
    | error f => rfl
    | ok p =>
      rw [hfirst] at hsame
      have hp : p.2 = s := congrArg Prod.snd (Except.ok.inj hsame)
      show (renderAll inclusion setting r s').map _ =
        ((renderAll inclusion setting r p.2).map _).map _
      rw [hp, hr hi.2 s s' h]
      cases renderAll inclusion setting r s <;> rfl

end

/-- A shelf whose templates do not read a variable renders the same whatever it is. -/
theorem Shelf.render_congr {x : String} {shelf : Shelf} {name : String}
    {vars vars' : Keyed String Value}
    (hshelf : ∀ tree, shelf.find? name = some (.ok tree) → ignoresTree x tree = true)
    (hkeys : Keyed.keys vars' = Keyed.keys vars)
    (h : ∀ y ≠ x, Keyed.get? y vars = Keyed.get? y vars') :
    shelf.render name vars' = shelf.render name vars := by
  have hscopes : Scope.AgreeOff x [vars] [vars'] := by
    intro y hy
    rw [Scope.get?, Scope.get?, h y hy]
    rfl
  rw [Shelf.render, Shelf.render, hkeys]
  rcases hfind : shelf.find? name with _ | why | tree
  · rfl
  · rfl
  · have htree := fun inclusion => (Template.render_congr (.ofName name) inclusion).2 tree
      (hshelf tree hfind) [vars] [vars'] hscopes
    dsimp only
    rw [apply, apply, depthLimit, renderWithin, renderWithin, htree]
    generalize renderAll _ (.ofName name) tree [vars] = written
    cases written <;> rfl

end UmlPress.Template
