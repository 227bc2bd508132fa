import UmlPress.Proofs.Layout
import UmlPress.Proofs.Pages

/-!
# What the templates in stock write

For any texts in their places, the templates in stock write the lines of the
layout. A template that stands for some lines has line feeds between them; those
of documentations and methods end each line with one.
-/
namespace UmlPress

namespace Template

theorem mapM_eq_ok {α β : Type} {g : α → Outcome β} {f : α → β} {xs : List α}
    (h : ∀ x ∈ xs, g x = .ok (f x)) : xs.mapM g = .ok (xs.map f) := by
  induction xs with
  | nil => rfl
  | cons x r ih =>
    obtain ⟨hx, hr⟩ := List.forall_mem_cons.1 h
    rw [List.mapM_cons, hx, ih hr]
    rfl

theorem mapM_display_plain (ls : List String) :
    (ls.map Value.plain).mapM Value.display = .ok ls := by
  have h : ls.mapM (Value.display ∘ .plain) = .ok (ls.map id) := mapM_eq_ok fun s _ => rfl
  rw [List.mapM_map, h, List.map_id]

theorem Filter.join_plain (ls : List String) (separator : String) :
    Filter.join false (.list (ls.map .plain)) (.plain separator) none =
      .ok (.plain (separator.intercalate ls)) := by
  have hdisplay := mapM_display_plain ls
  simp only [Filter.join, Value.iterate, Value.plain, Value.display, bind, Except.bind, pure,
    Except.pure, Bool.false_and, Bool.false_eq_true, if_false] at hdisplay ⊢
  rw [hdisplay]

theorem Filter.typeName_plain (s : String) :
    Filter.typeName (.plain s) = .ok (.plain (Layout.capitalized s)) := by
  by_cases hs : s = ""
  · subst hs
    rfl
  · simp [Filter.typeName, Value.plain, Value.truth, hs, Layout.capitalized, bind, Except.bind,
      pure, Except.pure]

theorem Value.holds_gt (m n : Int) :
    Value.holds .gt (.int m) (.int n) = .ok (decide (n < m)) := by
  change Except.ok ((if m < n then Ordering.lt else if m = n then .eq else .gt) == .gt) = _
  rcases Int.lt_trichotomy m n with h | h | h
  · rw [if_pos h, decide_eq_false (by omega)]
    rfl
  · rw [if_neg (by omega), if_pos h, decide_eq_false (by omega)]
    rfl
  · rw [if_neg (by omega), if_neg (by omega), decide_eq_true h]
    rfl

theorem renderAll_cons (inclusion : Inclusion) (setting : Setting) (node : Node) (tree : Tree)
    (scope : Scope) : renderAll inclusion setting (node :: tree) scope =
      (node.render inclusion setting scope).bind fun p =>
        (renderAll inclusion setting tree p.2).map fun q => (p.1 ++ q.1, q.2) := by
  rw [renderAll]
  rfl

def Writes (name : String) (scope : Scope) (tree : Tree) (text : String) : Prop :=
  ∀ inclusion, renderAll inclusion { name } tree scope = .ok (text, scope)

namespace Writes
variable {name : String} {scope : Scope} {tree : Tree} {rest : String}

theorem nil : Writes name scope [] "" := fun _ => rfl

theorem of_eq {text text' : String} (h : Writes name scope tree text) (heq : text' = text) :
    Writes name scope tree text' :=
  heq ▸ h

/-- A node that leaves the variables as they are, and what stands behind it. -/
theorem cons {node : Node} {first : String}
    (h : ∀ inclusion, node.render inclusion { name } scope = .ok (first, scope))
    (hrest : Writes name scope tree rest) : Writes name scope (node :: tree) (first ++ rest) := by
  intro inclusion
  rw [renderAll_cons, h inclusion]
  exact congrArg (Except.map _) (hrest inclusion)

theorem text {s : String} (h : Writes name scope tree rest) :
    Writes name scope (.text s :: tree) (s ++ rest) :=
  cons (fun _ => rfl) h

theorem print {e : Expr} {s : String} (he : e.eval { name } scope = .ok (.plain s))
    (h : Writes name scope tree rest) : Writes name scope (.print e :: tree) (s ++ rest) := by
  refine cons (fun inclusion => ?_) h
  rw [Node.render, he]
  rfl

theorem slot {x s : String} (hs : scope.get? x = some (.plain s))
    (h : Writes name scope tree rest) :
    Writes name scope (Emit.Stock.slot x :: tree) (s ++ rest) := by
  refine print ?_ h
  rw [Expr.eval, Setting.lookUp, hs]
  rfl

/-- The items of a list with a separator between them. -/
theorem joined {e : Expr} {separator : String} (ls : List String)
    (he : e.eval { name } scope = .ok (.list (ls.map .plain))) (h : Writes name scope tree rest) :
    Writes name scope (Emit.Stock.joined e separator :: tree)
      (separator.intercalate ls ++ rest) := by
  refine print ?_ h
  rw [Expr.eval, he]
  exact Filter.join_plain ls separator

/-- The branch that is taken. -/
theorem branch {condition : Expr} {body otherwise : Tree} {v : Value} {b : Bool} {s : String}
    (hv : condition.eval { name } scope = .ok v) (hb : v.truth = .ok b)
    (hs : Writes name scope (if b then body else otherwise) s) (h : Writes name scope tree rest) :
    Writes name scope (.branch condition body otherwise :: tree) (s ++ rest) := by
  refine cons (fun inclusion => ?_) h
  rw [Node.render, hv]
  change (do
    if ← v.truth then renderAll inclusion { name } body scope
    else renderAll inclusion { name } otherwise scope) = _
  rw [hb]
  cases b <;> exact hs inclusion

/-- A loop over texts that has no condition and does not look at its own state. -/
theorem loop {x : String} {iterated : Expr} {body otherwise : Tree} {ls : List String}
    {f : String → String}
    (he : iterated.eval { name } scope = .ok (.list (ls.map .plain))) (hls : ls ≠ [])
    (hbody : mentionsLoop body = false)
    (hf : ∀ l, Writes name ([(x, .plain l)] :: scope) body (f l))
    (h : Writes name scope tree rest) :
    Writes name scope (.loop (.name x) iterated none body otherwise :: tree)
      (String.join (ls.map f) ++ rest) := by
  refine cons (fun inclusion => ?_) h
  have hpassing : passing { name } scope (.name x) none (ls.map .plain) =
      (ls.map .plain, none) := by
    cases ls <;> rfl
  -- what one pass writes, whatever its position is
  let pass (p : Value × Nat) : Outcome String := do
    let inner ← (Target.name x).bind p.1 ([] :: scope)
    return (← renderAll inclusion { name } body inner).1
  have hpass (l : String) (n : Nat) : pass (.plain l, n) = .ok (f l) := by
    change (do return (← renderAll inclusion { name } body ([(x, .plain l)] :: scope)).1) = _
    rw [hf l inclusion]
    rfl
  have htexts : (ls.map Value.plain).zipIdx.mapM pass = .ok (ls.map f) := by
    have hall : ls.zipIdx.mapM (pass ∘ Prod.map .plain id) = .ok (ls.zipIdx.map (f ∘ Prod.fst)) :=
      mapM_eq_ok fun p _ => hpass p.1 p.2
    rw [List.zipIdx_map, List.mapM_map, hall, ← List.map_map, List.zipIdx_map_fst]
  rw [Node.render, he]
  simp only [bind, Except.bind, Value.iterate, hpassing, hbody, Bool.false_eq_true, if_false,
    List.isEmpty_map, Option.isNone_none, Bool.and_true, List.isEmpty_iff, hls]
  change ((ls.map Value.plain).zipIdx.mapM pass >>= fun texts =>
    pure (String.join texts, scope)) = _
  rw [htexts]
  rfl

end Writes
end Template

namespace Emit.Workshop
open Template Layout

def Renders (w : Workshop) (template : String) (vars : Keyed String Value) (text : String) : Prop :=
  ({ folders := [Stock.folder] } : Shelf).render template (w.common.update vars) = .ok text

theorem renders_of_writes {w : Workshop} {template : String} {vars : Keyed String Value}
    {tree : Tree} {text : String} (htree : Folder.find? template Stock.folder = some (.tree tree))
    (hescapes : escapes template = false)
    (hself : (Keyed.keys (w.common.update vars)).contains "self" = false)
    (h : Writes template [w.common.update vars] tree text) : w.Renders template vars text := by
  have hfind : ({ folders := [Stock.folder] } : Shelf).find? template = some (.ok tree) := by
    simp [Shelf.find?, Shelf.source?, Keyed.get?, htree, Source.tree?]
  rw [Renders, Shelf.render, hfind]
  simp only [hself, Bool.false_eq_true, if_false]
  rw [Shelf.apply, Shelf.depthLimit, Shelf.renderWithin, Setting.ofName, hescapes, h]
  rfl

theorem renders_header (w : Workshop) :
    w.Renders "class_file_header.dart.j2" [] ("\n".intercalate header) :=
  renders_of_writes rfl rfl rfl (.of_eq (.text .nil) rfl)

theorem renders_import (w : Workshop) (path : List String) (name : String) :
    w.Renders "import.dart.j2" [("path", .list (path.map .plain)), ("name", .plain name)]
      (importLine path name) := by
  refine renders_of_writes rfl rfl rfl (.of_eq (.text <| .joined path rfl <| .text <|
    .print (Filter.typeName_plain name) .nil) ?_)
  simp [importLine, String.append_assoc]

theorem renders_declaration (w : Workshop) (className baseClass : String)
    (inherited : List String) :
    w.Renders "class_declaration.dart.j2" [("class_name", .plain className),
      ("base_class", .plain baseClass), ("inherits", .list (inherited.map .plain))]
      (declaration className baseClass inherited) := by
  by_cases hs : inherited = []
  · subst hs
    refine renders_of_writes rfl rfl rfl (.of_eq (.text <| .slot rfl <| .text <| .slot rfl <|
      .text <| .branch (b := false) rfl rfl .nil <| .text .nil) ?_)
    simp [declaration, String.append_assoc]
  · have htruth : (Value.list (inherited.map .plain)).truth = .ok true := by
      simp [Value.truth, hs]
    refine renders_of_writes rfl rfl rfl (.of_eq (.text <| .slot rfl <| .text <| .slot rfl <|
      .text <| .branch rfl htruth (.text <| .joined inherited rfl <| .text .nil) <| .text .nil) ?_)
    simp [declaration, hs, String.append_assoc]

theorem renders_constructors (w : Workshop) (className rawName : String) :
    w.Renders "constructors.dart.j2" [("class_name", .plain className),
      ("raw_name", .plain rawName)]
      ("\n".intercalate (constructors w.options.indentUnit className rawName)) := by
  refine renders_of_writes rfl rfl rfl (.of_eq (.slot rfl <| .text <| .slot rfl <| .text <|
    .slot rfl <| .text <| .slot rfl <| .text .nil) ?_)
  simp [constructors, String.ext_iff]

theorem renders_put (w : Workshop) :
    w.Renders "put.dart.j2" [] ("\n".intercalate (put w.options.indentUnit)) := by
  refine renders_of_writes rfl rfl rfl (.of_eq (.text <| .slot rfl <| .text .nil) ?_)
  simp [put, String.ext_iff]

theorem renders_setter (w : Workshop) (name type : String) :
    w.Renders "setter.dart.j2" [("name", .plain name), ("type", .plain type),
      ("fragment", .plain (capitalized name))]
      ("\n".intercalate (setter w.options.indentUnit name type)) := by
  refine renders_of_writes rfl rfl rfl (.of_eq (.text <| .slot rfl <| .text <| .slot rfl <|
    .text <| .slot rfl <| .text <| .slot rfl <| .text <| .slot rfl <| .text <| .slot rfl <|
    .text .nil) ?_)
  simp [setter, String.ext_iff]

theorem renders_getter (w : Workshop) (name type : String) :
    w.Renders "getter.dart.j2" [("name", .plain name), ("type", .plain type),
      ("fragment", .plain (capitalized name))]
      ("\n".intercalate (getter w.options.indentUnit name type)) := by
  refine renders_of_writes rfl rfl rfl (.of_eq (.slot rfl <| .text <| .slot rfl <| .text <|
    .slot rfl <| .text <| .slot rfl <| .text .nil) ?_)
  simp [getter, String.ext_iff]

theorem renders_save (w : Workshop) (className : String) :
    w.Renders "save.dart.j2" [("class_name", .plain className)]
      ("\n".intercalate (save w.options.indentUnit className)) := by
  refine renders_of_writes rfl rfl rfl (.of_eq (.text <| .slot rfl <| .text <| .slot rfl <|
    .text <| .slot rfl <| .text .nil) ?_)
  simp [save, String.ext_iff]

theorem renders_signature (w : Workshop) (isStatic : Bool) (name : String)
    (parameters : List String) :
    w.Renders "method.dart.j2" [("name", .plain name), ("params", .list (parameters.map .plain)),
      ("is_static", .bool isStatic)]
      (String.join ((signature isStatic name parameters).map (· ++ "\n"))) := by
  cases isStatic with
  | true =>
    refine renders_of_writes rfl rfl rfl (.of_eq (.branch rfl rfl
      (.text <| .slot rfl <| .text <| .joined ("cls" :: parameters) rfl <| .text .nil)
      .nil) ?_)
    simp [signature, String.ext_iff]
  | false =>
    refine renders_of_writes rfl rfl rfl (.of_eq (.branch rfl rfl
      (.text <| .slot rfl <| .text <| .joined ("self" :: parameters) rfl <| .text .nil)
      .nil) ?_)
    simp [signature, String.ext_iff]

theorem renders_fenced (w : Workshop) {ls : List String} (h : ls ≠ []) :
    w.Renders "doc.dart.j2" [("lines", .list (ls.map .plain))]
      (String.join ((fenced ls).map (· ++ "\n"))) := by
  rcases ls with _ | ⟨l, _ | ⟨m, r⟩⟩
  · exact absurd rfl h
  · refine renders_of_writes rfl rfl rfl (.of_eq (.branch (b := false) rfl rfl
      (.text <| .print rfl <| .text .nil) .nil) ?_)
    simp [fenced, fence, String.ext_iff]
  · have hmany : Value.holds .gt (.int ((l :: m :: r).map Value.plain).length) (.int 1) =
        .ok true := by
      have hlt : (1 : Int) < ((l :: m :: r).length : Int) := by
        rw [List.length_cons, List.length_cons]
        omega
      rw [Value.holds_gt, List.length_map, decide_eq_true hlt]
    refine renders_of_writes rfl rfl rfl (.of_eq (.branch (b := true) (v := .bool true) ?_ rfl
      (.text <| .loop rfl h rfl (fun l => .slot rfl <| .text .nil) <| .text .nil) .nil) ?_)
    · change (do if ← Value.holds .gt (.int ((l :: m :: r).map Value.plain).length) (.int 1) then
        Except.ok (Value.bool true) else return .bool false) = _
      rw [hmany]
      rfl
    · simp [fenced, fence, String.ext_iff]

end Emit.Workshop
end UmlPress
