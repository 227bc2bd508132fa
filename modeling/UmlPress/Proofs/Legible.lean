import Mathlib.Data.List.TakeWhile
import UmlPress.Console.Outline
import UmlPress.Console.Panel
import UmlPress.Console.Table
import UmlPress.Proofs.Fallible

/-!
# Texts that a console can read

A text without a bracket has no tags, so nothing can be wrong with it. One with tags can be
read if every tag is opened before it is closed. A backslash in front of the closing one makes
that plain text, and a tag may stay open.
-/
namespace UmlPress.Console

def tagNames : List (List Char) := ["bold".toList, "dim".toList, "red".toList, "yellow".toList]

inductive Tagged : List Char → Prop
  | plain {s : List Char} : '[' ∉ s → Tagged s
  | tag {before name inside after : List Char} : '[' ∉ before → before.getLast? ≠ some '\\' →
    name ∈ tagNames → '[' ∉ inside → Tagged after →
    Tagged (before ++ '[' :: (name ++ ']' :: (inside ++ '[' :: ('/' :: name ++ ']' :: after))))

namespace Markup

/-! Pieces of a text. -/

def Piece.isPlain : Piece → Bool
  | .plain _ => true
  | .tag _ _ => false

theorem isPlain_plain {s : List Char} : ∀ p ∈ plain s, p.isPlain = true := by
  unfold plain
  split
  · exact nofun
  · exact List.forall_mem_singleton.2 rfl

theorem tag?_eq_none {s : List Char} (h : '[' ∉ s) : tag? s = none := by
  unfold tag?
  split
  case h_1 r heq =>
    have hmem : '[' ∈ s.dropWhile (· = '\\') := by simp [heq]
    exact absurd (List.dropWhile_sublist _ |>.mem hmem) h
  case h_2 => rfl

theorem isPlain_piecesFrom {n position : Nat} {before s : List Char} (h : '[' ∉ s) :
    ∀ p ∈ piecesFrom n position before s, p.isPlain = true := by
  induction s generalizing n position before with
  | nil => cases n <;> exact isPlain_plain
  | cons c r ih =>
    cases n with
    | zero => exact isPlain_plain
    | succ n =>
      rw [piecesFrom, tag?_eq_none h]
      exact ih fun hmem => h (List.mem_cons_of_mem _ hmem)

def IsTagName (name : List Char) : Prop :=
  name.head?.any opensTag = true ∧ ∀ c ∈ name, c ≠ ']' ∧ c ≠ '['

instance (name : List Char) : Decidable (IsTagName name) :=
  @instDecidableAnd _ _ _ (List.decidableBAll (fun c => c ≠ ']' ∧ c ≠ '[') name)

theorem tagName?_of_isTagName {name : List Char} (h : IsTagName name) (rest : List Char) :
    tagName? (name ++ ']' :: rest) = some (name, rest) := by
  obtain ⟨hhead, hname⟩ := h
  obtain ⟨c, r, rfl⟩ : ∃ c r, name = c :: r := by
    cases name with
    | nil => cases hhead
    | cons c r => exact ⟨c, r, rfl⟩
  have hc : opensTag c = true := hhead
  have hall : ∀ d ∈ c :: r, (d ≠ ']' && d ≠ '[') = true := fun d hd => by simp [hname d hd]
  have htake : ((c :: r) ++ ']' :: rest).takeWhile (fun c => c ≠ ']' && c ≠ '[') = c :: r := by
    rw [List.takeWhile_append_of_pos hall]
    simp
  have hdrop : ((c :: r) ++ ']' :: rest).dropWhile (fun c => c ≠ ']' && c ≠ '[') =
      ']' :: rest := by
    rw [List.dropWhile_append_of_pos hall]
    simp
  rw [List.cons_append] at htake hdrop ⊢
  simp only [tagName?, if_pos hc, htake, hdrop]

theorem tag?_of_slashes {name : List Char} (h : IsTagName name) {s : List Char}
    (hs : ∀ c ∈ s, c = '\\') (rest : List Char) :
    tag? (s ++ '[' :: (name ++ ']' :: rest)) = some (s.length, name, rest) := by
  have hall : ∀ c ∈ s, decide (c = '\\') = true := fun c hc => decide_eq_true (hs c hc)
  have hdrop : (s ++ '[' :: (name ++ ']' :: rest)).dropWhile (· = '\\') =
      '[' :: (name ++ ']' :: rest) := by
    rw [List.dropWhile_append_of_pos hall]
    simp
  have htake : (s ++ '[' :: (name ++ ']' :: rest)).takeWhile (· = '\\') = s := by
    rw [List.takeWhile_append_of_pos hall]
    simp
  simp only [tag?, hdrop, htake, tagName?_of_isTagName h, Option.map_some]

theorem tag?_of_not_slashes {s : List Char} (h : '[' ∉ s) (hs : ¬ ∀ c ∈ s, c = '\\')
    (rest : List Char) : tag? (s ++ rest) = none := by
  cases hd : s.dropWhile (· = '\\') with
  | nil => exact absurd (fun c hc => of_decide_eq_true (List.dropWhile_eq_nil_iff.1 hd c hc)) hs
  | cons d r =>
    have hmem : d ∈ s := (List.dropWhile_sublist (· = '\\')).mem (hd ▸ List.mem_cons_self)
    rw [tag?, List.dropWhile_append, hd]
    dsimp only [List.isEmpty_cons, Bool.false_eq_true, if_false]
    split
    case h_1 heq =>
      cases heq
      exact absurd hmem h
    case h_2 => rfl

theorem piecesFrom_of_tag? {s name rest : List Char} {slashes : Nat}
    (h : tag? s = some (slashes, name, rest)) (n position : Nat) (before : List Char) :
    piecesFrom (n + 1) position before s =
      (plain before.reverse ++ plain (List.replicate (slashes / 2) '\\')) ++
        (if slashes % 2 = 1 then .plain ('[' :: name ++ [']'])
          else .tag (position + 2 * (slashes / 2)) name) ::
        piecesFrom n (position + slashes + name.length + 2) [] rest := by
  cases s with
  | nil => cases h
  | cons c r => rw [piecesFrom, h]

/-- In front of a tag stand plain characters; the tag itself is plain behind a backslash. -/
theorem piecesFrom_append_tag {name rest : List Char} (hname : IsTagName name) {s : List Char}
    (hs : '[' ∉ s) {n : Nat} (position : Nat) (before : List Char)
    (hn : (s ++ '[' :: (name ++ ']' :: rest)).length < n) :
    ∃ lead here n' position', piecesFrom n position before (s ++ '[' :: (name ++ ']' :: rest)) =
        lead ++ here :: piecesFrom n' position' [] rest ∧
      (∀ p ∈ lead, p.isPlain = true) ∧ rest.length < n' ∧
      (here.isPlain = true ∧ s.getLast? = some '\\' ∨ ∃ q, here = .tag q name) := by
  obtain ⟨n, rfl⟩ : ∃ k, n = k + 1 := ⟨n - 1, by omega⟩
  by_cases hall : ∀ c ∈ s, c = '\\'
  · refine ⟨_, _, n, _, piecesFrom_of_tag? (tag?_of_slashes hname hall rest) n position before,
      List.forall_mem_append.2 ⟨isPlain_plain, isPlain_plain⟩, ?_, ?_⟩
    · simp only [List.length_append, List.length_cons] at hn
      omega
    · split
      case isTrue hodd =>
        have hne : s ≠ [] := fun h => by simp [h] at hodd
        refine .inl ⟨rfl, ?_⟩
        rw [List.getLast?_eq_some_getLast hne, hall _ (List.getLast_mem hne)]
      case isFalse => exact .inr ⟨_, rfl⟩
  · have htag := tag?_of_not_slashes hs hall ('[' :: (name ++ ']' :: rest))
    cases s with
    | nil => exact absurd (List.forall_mem_nil _) hall
    | cons c r =>
      obtain ⟨lead, here, n', position', heq, hlead, hn', hhere⟩ := piecesFrom_append_tag hname
        (fun h => hs (List.mem_cons_of_mem _ h)) (position + 1) (c :: before)
        (Nat.succ_lt_succ_iff.1 hn)
      rw [List.cons_append] at htag ⊢
      rw [piecesFrom, htag]
      refine ⟨lead, here, n', position', heq, hlead, hn', hhere.imp_left ?_⟩
      rintro ⟨hplain, hlast⟩
      refine ⟨hplain, ?_⟩
      rw [List.getLast?_cons, hlast]
      rfl

/-! Reading the pieces. -/

def Legible (opened : List Opened) (ps : List Piece) : Prop :=
  (∃ shown, visible opened ps = .ok shown) ∧ checkStyles ps = .ok ()

variable {opened : List Opened} {ps lead : List Piece}

theorem legible_append (hlead : ∀ p ∈ lead, p.isPlain = true) (h : Legible opened ps) :
    Legible opened (lead ++ ps) := by
  induction lead with
  | nil => exact h
  | cons p r ih =>
    obtain ⟨hp, hr⟩ := List.forall_mem_cons.1 hlead
    obtain ⟨⟨shown, hshown⟩, hstyles⟩ := ih hr
    cases p with
    | tag position name => cases hp
    | plain s => exact ⟨⟨_, by rw [List.cons_append, visible, hshown]; rfl⟩, hstyles⟩

theorem legible_of_isPlain (h : ∀ p ∈ ps, p.isPlain = true) : Legible opened ps := by
  rw [← List.append_nil ps]
  exact legible_append h ⟨⟨[], rfl⟩, rfl⟩

theorem isTagName_of_mem : ∀ name ∈ tagNames, IsTagName name ∧ IsTagName ('/' :: name) := by
  decide

theorem visible_opening (position : Nat) : ∀ name ∈ tagNames,
    visible opened (.tag position name :: ps) = visible (⟨name, none⟩ :: opened) ps := by
  simp only [tagNames, List.forall_mem_cons]
  exact ⟨rfl, rfl, rfl, rfl, nofun⟩

theorem visible_closing (position : Nat) : ∀ name ∈ tagNames,
    visible (⟨name, none⟩ :: opened) (.tag position ('/' :: name) :: ps) = visible opened ps := by
  simp only [tagNames, List.forall_mem_cons]
  exact ⟨rfl, rfl, rfl, rfl, nofun⟩

theorem checkStyles_tag (position : Nat) : ∀ name ∈ tagNames,
    checkStyles (.tag position name :: ps) = checkStyles ps ∧
      checkStyles (.tag position ('/' :: name) :: ps) = checkStyles ps := by
  simp only [tagNames, List.forall_mem_cons]
  exact ⟨⟨rfl, rfl⟩, ⟨rfl, rfl⟩, ⟨rfl, rfl⟩, ⟨rfl, rfl⟩, nofun⟩

theorem legible_opening {name : List Char} (hname : name ∈ tagNames) {position : Nat}
    (h : Legible (⟨name, none⟩ :: opened) ps) : Legible opened (.tag position name :: ps) := by
  rwa [Legible, visible_opening position name hname, (checkStyles_tag position name hname).1]

theorem legible_closing {name : List Char} (hname : name ∈ tagNames) {position : Nat}
    (h : Legible opened ps) :
    Legible (⟨name, none⟩ :: opened) (.tag position ('/' :: name) :: ps) := by
  rwa [Legible, visible_closing position name hname, (checkStyles_tag position name hname).2]

theorem legible_of_tagged {s : List Char} (h : Tagged s) {n position : Nat} (hn : s.length < n) :
    Legible opened (piecesFrom n position [] s) := by
  induction h generalizing opened n position with
  | plain h => exact legible_of_isPlain (isPlain_piecesFrom h)
  | tag hbefore hlast hname hinside _ ih =>
    obtain ⟨hopening, hclosing⟩ := isTagName_of_mem _ hname
    obtain ⟨lead, here, n', position', heq, hlead, hn', hhere⟩ :=
      piecesFrom_append_tag hopening hbefore position [] hn
    rw [heq]
    refine legible_append hlead ?_
    obtain ⟨q, rfl⟩ := hhere.resolve_left fun h => hlast h.2
    refine legible_opening hname ?_
    obtain ⟨lead, here, n', position'', heq, hlead, hn', hhere⟩ :=
      piecesFrom_append_tag hclosing hinside position' [] hn'
    rw [heq]
    refine legible_append hlead ?_
    rcases hhere with ⟨hplain, -⟩ | ⟨q, rfl⟩
    · have hplain : ∀ p ∈ [here], p.isPlain = true := List.forall_mem_singleton.2 hplain
      exact legible_append hplain (ih hn')
    · exact legible_closing hname (ih hn')

end Markup

/-- Whatever is tagged in order can be shown. -/
theorem Tagged.exists_unmarked {s : List Char} (h : Tagged s) :
    ∃ shown, unmarked s = .ok shown := by
  unfold unmarked
  split
  · obtain ⟨⟨shown, hshown⟩, hstyles⟩ : Markup.Legible [] (Markup.pieces s) :=
      Markup.legible_of_tagged h (Nat.lt_succ_self s.length)
    exact ⟨shown, bind_eq_ok.2 ⟨shown, hshown, bind_eq_ok.2 ⟨(), hstyles, rfl⟩⟩⟩
  · exact ⟨_, rfl⟩

end UmlPress.Console

namespace UmlPress.Console

/-! Tables, panels and outlines. -/

theorem Table.exists_render {limit : Nat} {title : String} {head : List String}
    {rows : List (List String)} (h : ∀ r ∈ rows, ∀ c ∈ r, Tagged c.toList) :
    ∃ ls, Table.render limit title head rows = .ok ls := by
  have hcell : ∀ r ∈ rows.map (·.map String.toList), ∀ i : Nat, Tagged (r.getD i []) := by
    rw [List.forall_mem_map]
    intro r hr i
    rw [List.getD_eq_getElem?_getD, List.getElem?_map]
    cases hi : r[i]? with
    | none => exact .plain List.not_mem_nil
    | some c => exact h r hr c (List.mem_of_getElem? hi)
  have hcolumn : ∀ i ∈ List.range head.length, ∃ column, ((rows.map (·.map String.toList)).mapM
      fun r => unmarked (r.getD i [])) = .ok column ∧ True := by
    intro i _
    obtain ⟨column, hcolumn, -⟩ := exists_mapM (Q := fun _ => True)
      fun r hr => (hcell r hr i).exists_unmarked.imp fun _ h => ⟨h, trivial⟩
    exact ⟨column, hcolumn, trivial⟩
  obtain ⟨columns, hcolumns, -⟩ := exists_mapM hcolumn
  exact ⟨_, bind_eq_ok.2 ⟨_, bind_eq_ok.2 ⟨columns, hcolumns, rfl⟩, rfl⟩⟩

theorem Panel.exists_render {columns : Nat} {title code : String} (h : Tagged title.toList) :
    ∃ ls, Panel.render columns title code = .ok ls := by
  obtain ⟨shown, hshown⟩ := h.exists_unmarked
  exact ⟨_, map_eq_ok.2 ⟨shown, hshown, rfl⟩⟩

theorem exists_textLines {columns : Nat} {s : String} (h : Tagged s.toList) :
    ∃ ls, textLines columns s = .ok ls := by
  obtain ⟨shown, hshown⟩ := h.exists_unmarked
  exact ⟨_, map_eq_ok.2 ⟨shown, hshown, rfl⟩⟩

namespace Outline

inductive IsTagged : Outline → Prop
  | node {label : String} {children : List Outline} : Tagged label.toList →
    (∀ o ∈ children, IsTagged o) → IsTagged (.node label children)

theorem exists_labelLines (columns : Nat) (first others : List Char) {label : String}
    (h : Tagged label.toList) : ∃ ls, labelLines columns first others label = .ok ls := by
  obtain ⟨shown, hshown⟩ := h.exists_unmarked
  unfold labelLines
  dsimp only
  split
  · exact ⟨[], rfl⟩
  · rw [hshown]
    dsimp only [bind, Except.bind]
    split <;> exact ⟨_, rfl⟩

mutual

theorem exists_linesOf (columns : Nat) (first others : List Char) :
    ∀ {o : Outline}, o.IsTagged → ∃ ls, linesOf columns first others o = .ok ls
  | .node label children, .node hlabel hchildren => by
    obtain ⟨own, hown⟩ := exists_labelLines columns first others hlabel
    obtain ⟨below, hbelow⟩ := exists_childLines columns others hchildren
    exact ⟨own ++ below, by rw [linesOf, hown, hbelow]; rfl⟩

theorem exists_childLines (columns : Nat) (guides : List Char) :
    ∀ {os : List Outline}, (∀ o ∈ os, o.IsTagged) → ∃ ls, childLines columns guides os = .ok ls
  | [], _ => ⟨[], rfl⟩
  | [o], h => by
    rw [childLines]
    exact exists_linesOf columns _ _ (h o List.mem_cons_self)
  | o :: p :: r, h => by
    obtain ⟨here, hhere⟩ := exists_linesOf columns (guides ++ "├── ".toList)
      (guides ++ "│   ".toList) (h o List.mem_cons_self)
    obtain ⟨below, hbelow⟩ := exists_childLines columns guides
      fun o ho => h o (List.mem_cons_of_mem _ ho)
    refine ⟨here ++ below, ?_⟩
    rw [childLines, hhere, hbelow]
    · rfl
    · exact List.cons_ne_nil p r

end

theorem exists_render {columns : Nat} {o : Outline} (h : o.IsTagged) :
    ∃ ls, render columns o = .ok ls := exists_linesOf columns [] [] h

end Outline
end UmlPress.Console
