import UmlPress.Console.Outline
import UmlPress.Console.Panel
import UmlPress.Console.Table
import UmlPress.Proofs.Cuts
import UmlPress.Proofs.Fallible
import UmlPress.Proofs.Stems

/-!
# What is drawn on a console

Lines are drawn with the characters of the texts that they show, with spaces and with the strokes
of frames and guides. So no half stands in them if none stands in the texts.
-/
namespace UmlPress

namespace Text

theorem subset_of_mem_pieces {s l : List Char} (h : l ∈ pieces s) : l ⊆ s := by
  induction s generalizing l with
  | nil =>
    rw [pieces, List.mem_singleton] at h
    exact h ▸ List.Subset.refl _
  | cons c r ih =>
    rw [pieces] at h
    split at h
    · exact subset_of_mem_empty_cons (by simp) (fun l => ih) h
    · exact subset_of_mem_consLine (fun l => ih) h

end Text

namespace Console
open Text (Encodable encodable_append encodable_cons encodable_nil encodable_replicate
  encodable_singleton)
variable {s : List Char}

theorem encodable_spaces (n : Nat) : Encodable (spaces n) := encodable_replicate (by decide) n

/-! Columns. -/

def Clear (ks : List Cluster) : Prop := ∀ k ∈ ks, Encodable k.chars

theorem clear_extend {cs : List Char} (hcs : Encodable cs) (wider : Nat) {ks : List Cluster}
    (h : Clear ks) : Clear (extend cs wider ks) := by
  cases ks with
  | nil => exact h
  | cons k r =>
    obtain ⟨hk, hr⟩ := List.forall_mem_cons.1 h
    exact List.forall_mem_cons.2 ⟨hk.append hcs, hr⟩

theorem clear_clustersFrom {made : List Cluster} {last : Option Char} (hs : Encodable s)
    (h : Clear made) : Clear (clustersFrom made last s) := by
  fun_induction clustersFrom made last s with
  | case1 => exact h
  | case2 made last c => exact clear_extend hs 0 h
  | case3 made last c _ d r ih =>
    obtain ⟨hc, hd, hr⟩ : Text.isHalf c = false ∧ Text.isHalf d = false ∧ Encodable r := by
      simpa using hs
    exact ih hr (clear_extend (encodable_cons.2 ⟨hc, encodable_singleton.2 hd⟩) 0 h)
  | case4 made last c r _ _ _ ih =>
    obtain ⟨hc, hr⟩ := encodable_cons.1 hs
    exact ih hr (clear_extend (encodable_singleton.2 hc) 1 h)
  | case5 made last c r _ _ _ ih =>
    obtain ⟨hc, hr⟩ := encodable_cons.1 hs
    exact ih hr (clear_extend (encodable_singleton.2 hc) 0 h)
  | case6 made last c r _ _ _ ih =>
    obtain ⟨hc, hr⟩ := encodable_cons.1 hs
    exact ih hr (List.forall_mem_singleton.2 (encodable_singleton.2 hc))
  | case7 made last c r _ _ _ _ _ ih =>
    obtain ⟨hc, hr⟩ := encodable_cons.1 hs
    exact ih hr (List.forall_mem_singleton.2 (encodable_singleton.2 hc))
  | case8 made last c r _ _ _ _ _ ih =>
    obtain ⟨hc, hr⟩ := encodable_cons.1 hs
    exact ih hr (clear_extend (encodable_singleton.2 hc) 0 h)
  | case9 made last c r _ _ _ n _ ih =>
    obtain ⟨hc, hr⟩ := encodable_cons.1 hs
    exact ih hr (List.forall_mem_cons.2 ⟨encodable_singleton.2 hc, h⟩)

theorem clear_clusters (hs : Encodable s) : Clear (clusters s) :=
  fun k hk => clear_clustersFrom hs (List.forall_mem_nil _) k (List.mem_reverse.1 hk)

theorem encodable_cutClusters {room : Nat} {ks : List Cluster} (h : Clear ks) :
    Encodable (cutClusters room ks) := by
  induction ks generalizing room with
  | nil => exact encodable_nil
  | cons k r ih =>
    obtain ⟨hk, hr⟩ := List.forall_mem_cons.1 h
    rw [cutClusters]
    split_ifs
    · exact encodable_nil
    · exact encodable_spaces room
    · exact hk.append (ih hr)

theorem encodable_fit (columns : Nat) (hs : Encodable s) : Encodable (fit columns s) := by
  unfold fit
  dsimp only
  split
  · exact hs.append (encodable_spaces _)
  · exact encodable_cutClusters (clear_clusters hs)

theorem encodable_cropped (columns : Nat) (hs : Encodable s) : Encodable (cropped columns s) := by
  unfold cropped
  split
  · exact hs
  · exact encodable_fit columns hs

theorem encodable_shortened (columns : Nat) (hs : Encodable s) :
    Encodable (shortened columns s) := by
  unfold shortened
  split
  · exact hs
  · exact (encodable_fit _ hs).append (by decide)

theorem encodable_padded (columns : Nat) (hs : Encodable s) : Encodable (padded columns s) :=
  hs.append (encodable_spaces _)

theorem encodable_pieces (columns : Nat) (hs : Encodable s) :
    ∀ l ∈ pieces columns s, Encodable l := by
  intro l hl
  unfold pieces at hl
  refine (List.foldlRecOn (clusters s) _
    (motive := fun acc : List (List Char) × Nat => ∀ l ∈ acc.1, Encodable l)
    (List.forall_mem_nil _) fun acc hacc k hk => ?_) l (List.mem_reverse.1 hl)
  have hchars := clear_clusters hs k hk
  obtain ⟨_ | ⟨line, lines⟩, used⟩ := acc
  · exact List.forall_mem_singleton.2 hchars
  · obtain ⟨hline, hlines⟩ := List.forall_mem_cons.1 hacc
    dsimp only
    split
    · exact List.forall_mem_cons.2 ⟨hchars, hacc⟩
    · exact List.forall_mem_cons.2 ⟨hline.append hchars, hlines⟩

/-! Lines of a limited width. -/

theorem encodable_untabbed (tab : Nat) (hs : Encodable s) : Encodable (untabbed tab s) := by
  unfold untabbed
  refine encodable_append.2 (List.foldlRecOn s _
    (motive := fun acc : List Char × List Char => Encodable acc.1 ∧ Encodable acc.2)
    ⟨encodable_nil, encodable_nil⟩ fun acc hacc c hc => ?_)
  dsimp only
  split
  · refine ⟨((hacc.1.append hacc.2).append (by decide)).append ?_, encodable_nil⟩
    split
    · exact encodable_nil
    · exact encodable_spaces _
  · exact ⟨hacc.1, hacc.2.append (encodable_singleton.2 (hs c hc))⟩

theorem encodable_wordsFrom {n : Nat} (hs : Encodable s) : ∀ w ∈ wordsFrom n s, Encodable w := by
  induction n generalizing s with
  | zero => exact List.forall_mem_nil _
  | succ n ih =>
    rw [wordsFrom]
    have hrest := hs.of_sublist (List.dropWhile_sublist Text.isBlank)
    have hbehind := hrest.of_sublist (List.dropWhile_sublist fun c => !Text.isBlank c)
    split
    · exact List.forall_mem_nil _
    · refine List.forall_mem_cons.2
        ⟨((hs.of_sublist (List.takeWhile_sublist _)).append ?_).append ?_, ih ?_⟩
      · exact hrest.of_sublist (List.takeWhile_sublist _)
      · exact hbehind.of_sublist (List.takeWhile_sublist _)
      · exact hbehind.of_sublist (List.dropWhile_sublist _)

namespace Filling
variable {f : Filling}

structure IsClear (f : Filling) : Prop where
  full : ∀ l ∈ f.full, Encodable l
  line : Encodable f.line

theorem IsClear.turn (h : f.IsClear) : ∀ l ∈ f.turn, Encodable l := by
  unfold Filling.turn
  split
  · exact h.full
  · exact List.forall_mem_cons.2 ⟨h.line, h.full⟩

theorem IsClear.take (h : f.IsClear) {ls : List (List Char)} (hls : ∀ l ∈ ls, Encodable l) :
    (f.take ls).IsClear := by
  fun_induction Filling.take f ls with
  | case1 => exact h
  | case2 f l => exact ⟨h.turn, hls l List.mem_cons_self⟩
  | case3 f l r _ ih =>
    obtain ⟨hl, hr⟩ := List.forall_mem_cons.1 hls
    exact ih ⟨h.turn, hl⟩ hr

theorem IsClear.place (h : f.IsClear) (room : Nat) (fold : Bool) {word : List Char}
    (hword : Encodable word) : (f.place room fold word).IsClear := by
  unfold Filling.place
  dsimp only
  split_ifs
  · exact ⟨h.full, h.line.append hword⟩
  · exact h.take (encodable_pieces room hword)
  · exact h.take (List.forall_mem_singleton.2 hword)
  · exact ⟨h.full, h.line.append hword⟩
  · exact h.take (List.forall_mem_singleton.2 hword)

end Filling

theorem encodable_trimmedTo (room : Nat) (hs : Encodable s) : Encodable (trimmedTo room s) :=
  hs.of_sublist (List.take_sublist _ _)

theorem encodable_broken (room : Nat) (fold : Bool) (hs : Encodable s) :
    ∀ l ∈ broken room fold s, Encodable l := by
  have hwords : ∀ w ∈ wordsOf s, Encodable w := encodable_wordsFrom hs
  unfold broken
  generalize wordsOf s = ws at hwords
  split
  · exact List.forall_mem_singleton.2 (encodable_trimmedTo room hs)
  · have hfilled : (ws.foldl (Filling.place room fold) {}).IsClear :=
      List.foldlRecOn ws _ ⟨List.forall_mem_nil _, encodable_nil⟩
        fun f hf w hw => hf.place room fold (hwords w hw)
    rw [List.forall_mem_map]
    intro l hl
    rw [Filling.lines, List.mem_reverse] at hl
    exact encodable_trimmedTo room
      (List.forall_mem_cons.2 ⟨hfilled.line, hfilled.full⟩ l hl)

theorem encodable_limited (overflow : Overflow) (room : Nat) (hs : Encodable s) :
    Encodable (limited overflow room s) := by
  cases overflow with
  | fold => exact encodable_cropped room hs
  | ellipsis => exact encodable_shortened room hs

theorem encodable_justified (overflow : Overflow) (justify : Justify) (room : Nat)
    (hs : Encodable s) : Encodable (justified overflow justify room s) := by
  cases justify with
  | none => exact encodable_limited overflow room hs
  | left => exact encodable_padded room (encodable_limited overflow room hs)
  | center =>
    have htrimmed := hs.of_subset (Text.trimEndBy_subset Text.isBlank s)
    exact encodable_padded room
      ((encodable_spaces _).append (encodable_limited overflow room htrimmed))

theorem encodable_layout (overflow : Overflow) (justify : Justify) (room : Nat)
    (hs : Encodable s) : ∀ l ∈ layout overflow justify room s, Encodable l := by
  intro l hl
  obtain ⟨piece, hpiece, hl⟩ := List.mem_flatMap.1 hl
  obtain ⟨m, hm, rfl⟩ := List.mem_map.1 hl
  have hwhole := hs.of_subset (Text.subset_of_mem_pieces hpiece)
  exact encodable_justified overflow justify room
    (encodable_broken room _ (encodable_untabbed tabStops hwhole) m hm)

/-! Marked-up texts. -/

namespace Markup

def Piece.IsClear : Piece → Prop
  | .plain s => Encodable s
  | .tag _ _ => True

theorem clear_plain (hs : Encodable s) : ∀ p ∈ plain s, p.IsClear := by
  unfold plain
  split
  · exact List.forall_mem_nil _
  · exact List.forall_mem_singleton.2 hs

theorem append_of_tagName? {name rest : List Char} (h : tagName? s = some (name, rest)) :
    name ++ ']' :: rest = s := by
  unfold tagName? at h
  split at h
  case h_2 => cases h
  case h_1 c r =>
    split at h
    case isFalse => cases h
    case isTrue =>
      split at h
      case h_2 => cases h
      case h_1 r' hdrop =>
        cases h
        rw [← hdrop]
        exact List.takeWhile_append_dropWhile

theorem encodable_of_tag? {slashes : Nat} {name rest : List Char} (hs : Encodable s)
    (h : tag? s = some (slashes, name, rest)) : Encodable name ∧ Encodable rest := by
  unfold tag? at h
  split at h
  case h_2 => cases h
  case h_1 r hdrop =>
    obtain ⟨⟨name', rest'⟩, hname, heq⟩ := Option.map_eq_some_iff.1 h
    cases heq
    have hr : Encodable ('[' :: r) := hdrop ▸ hs.of_sublist (List.dropWhile_sublist _)
    rw [← append_of_tagName? hname, encodable_cons, encodable_append, encodable_cons] at hr
    exact ⟨hr.2.1, hr.2.2.2⟩

theorem clear_piecesFrom {n position : Nat} {before : List Char} (hbefore : Encodable before)
    (hs : Encodable s) : ∀ p ∈ piecesFrom n position before s, p.IsClear := by
  have hlead {before : List Char} (hbefore : Encodable before) :
      ∀ p ∈ plain before.reverse, p.IsClear :=
    clear_plain (hbefore.of_subset fun c hc => List.mem_reverse.1 hc)
  fun_induction piecesFrom n position before s with
  | case1 => exact hlead hbefore
  | case2 => exact hlead hbefore
  | case3 position before n c r htag ih =>
    obtain ⟨hc, hr⟩ := encodable_cons.1 hs
    exact ih (encodable_cons.2 ⟨hc, hbefore⟩) hr
  | case4 position before n c r slashes name rest htag behind kept here ih =>
    obtain ⟨hname, hrest⟩ := encodable_of_tag? hs htag
    have hhere : here.IsClear := by
      unfold here
      split
      · exact Encodable.append (encodable_cons.2 ⟨by decide, hname⟩) (by decide)
      · trivial
    refine List.forall_mem_append.2 ⟨List.forall_mem_append.2 ⟨hlead hbefore,
      clear_plain (encodable_replicate (by decide) _)⟩, ?_⟩
    exact List.forall_mem_cons.2 ⟨hhere, ih encodable_nil hrest⟩

theorem unescaped_sublist (s : List Char) : (unescaped s).Sublist s := by
  fun_induction unescaped s with
  | case1 => exact .slnil
  | case2 r ih => exact .cons _ (.cons_cons _ ih)
  | case3 c r _ ih => exact .cons_cons _ ih

theorem encodable_of_visible {opened : List Opened} {ps : List Piece} {shown : List Char}
    (hps : ∀ p ∈ ps, p.IsClear) (h : visible opened ps = .ok shown) : Encodable shown := by
  induction ps generalizing opened shown with
  | nil =>
    cases h
    exact encodable_nil
  | cons p r ih =>
    obtain ⟨hp, hr⟩ := List.forall_mem_cons.1 hps
    cases p with
    | plain s =>
      obtain ⟨rest, hrest, heq⟩ := bind_eq_ok.1 h
      cases heq
      exact (hp.of_sublist ((List.filter_sublist).trans (unescaped_sublist s))).append
        (ih hr hrest)
    | tag position name =>
      unfold visible at h
      split at h
      case h_1 style _ =>
        split at h
        case h_1 =>
          split at h
          case h_1 => cases h
          case h_2 o others =>
            obtain ⟨_, -, hrest⟩ := bind_eq_ok.1 h
            exact ih hr hrest
        case h_2 =>
          obtain ⟨_, -, h⟩ := bind_eq_ok.1 h
          split at h
          case h_1 o _ =>
            obtain ⟨_, -, hrest⟩ := bind_eq_ok.1 h
            exact ih hr hrest
          case h_2 => cases h
      case h_2 =>
        obtain ⟨_, -, hrest⟩ := bind_eq_ok.1 h
        exact ih hr hrest

end Markup

theorem encodable_of_unmarked {shown : List Char} (hs : Encodable s)
    (h : unmarked s = .ok shown) : Encodable shown := by
  unfold unmarked at h
  split at h
  · obtain ⟨visible, hvisible, h⟩ := bind_eq_ok.1 h
    obtain ⟨_, -, heq⟩ := bind_eq_ok.1 h
    cases heq
    exact Markup.encodable_of_visible (Markup.clear_piecesFrom encodable_nil hs) hvisible
  · cases h
    exact hs.of_sublist List.filter_sublist

theorem encodable_of_textLines {columns : Nat} {text : String} {ls : List (List Char)}
    (h : textLines columns text = .ok ls) (htext : Encodable text.toList) :
    ∀ l ∈ ls, Encodable l := by
  obtain ⟨shown, hshown, rfl⟩ := map_eq_ok.1 h
  exact encodable_layout .fold .none columns (encodable_of_unmarked htext hshown)

/-! Tables. -/

namespace Table

theorem encodable_intercalate {sep : List Char} (hsep : Encodable sep) {parts : List (List Char)}
    (h : ∀ p ∈ parts, Encodable p) : Encodable (sep.intercalate parts) := by
  induction parts with
  | nil => exact encodable_nil
  | cons p r ih =>
    obtain ⟨hp, hr⟩ := List.forall_mem_cons.1 h
    cases r with
    | nil => simpa [List.intercalate] using hp
    | cons q r =>
      have hrest := ih hr
      simp only [List.intercalate, List.intersperse, List.flatten_cons] at hrest ⊢
      exact hp.append (hsep.append hrest)

theorem encodable_framed {left between right : Char} (hleft : Text.isHalf left = false)
    (hbetween : Text.isHalf between = false) (hright : Text.isHalf right = false)
    {parts : List (List Char)} (h : ∀ p ∈ parts, Encodable p) :
    Encodable (framed left between right parts) :=
  Text.Encodable.append (encodable_cons.2 ⟨hleft,
    encodable_intercalate (encodable_singleton.2 hbetween) h⟩) (encodable_singleton.2 hright)

theorem encodable_ruled {left between right : Char} (hleft : Text.isHalf left = false)
    (hbetween : Text.isHalf between = false) (hright : Text.isHalf right = false)
    (widths : List Nat) : Encodable (ruled left between right widths) := by
  refine encodable_framed hleft hbetween hright ?_
  rw [List.forall_mem_map]
  exact fun w _ => encodable_replicate (by decide) w

theorem encodable_cellLines (columns : Nat) (hs : Encodable s) :
    ∀ l ∈ cellLines columns s, Encodable l := by
  unfold cellLines
  rw [List.forall_mem_map]
  intro l hl
  have hline := encodable_layout .ellipsis .left (columns - padding) hs l hl
  exact Text.Encodable.append (encodable_cons.2 ⟨by decide, hline⟩) (by decide)

theorem encodable_row (widths : List Nat) {cells : List (List Char)}
    (h : ∀ c ∈ cells, Encodable c) : ∀ l ∈ row widths cells, Encodable l := by
  unfold row
  dsimp only
  rw [List.forall_mem_map]
  intro i _
  refine encodable_framed (by decide) (by decide) (by decide) ?_
  rw [List.map_map, List.forall_mem_map]
  rintro ⟨w, c⟩ hpair
  have hcell := encodable_cellLines w (h c (List.of_mem_zip hpair).2)
  dsimp only [Function.comp_apply]
  rw [List.getD_eq_getElem?_getD]
  cases hi : (cellLines w c)[i]? with
  | none => exact encodable_spaces w
  | some l => exact hcell l (List.mem_of_getElem? hi)

theorem encodable_lines (limit : Nat) {title : List Char} {head : List (List Char)}
    {rows : List (List (List Char))} (htitle : Encodable title)
    (hhead : ∀ c ∈ head, Encodable c) (hrows : ∀ r ∈ rows, ∀ c ∈ r, Encodable c) :
    ∀ l ∈ lines limit title head rows, Encodable l := by
  unfold lines
  dsimp only
  simp only [List.forall_mem_append, List.forall_mem_singleton, List.forall_mem_flatMap]
  refine ⟨⟨⟨⟨⟨?_, ?_⟩, ?_⟩, ?_⟩, ?_⟩, ?_⟩
  · exact encodable_layout .fold .center _ htitle
  · exact encodable_ruled (by decide) (by decide) (by decide) _
  · exact encodable_row _ hhead
  · exact encodable_ruled (by decide) (by decide) (by decide) _
  · exact fun r hr => encodable_row _ (hrows r hr)
  · exact encodable_ruled (by decide) (by decide) (by decide) _

theorem encodable_getD {cells : List (List Char)} (h : ∀ c ∈ cells, Encodable c) (i : Nat) :
    Encodable (cells.getD i []) := by
  rw [List.getD_eq_getElem?_getD]
  cases hi : cells[i]? with
  | none => exact encodable_nil
  | some c => exact h c (List.mem_of_getElem? hi)

theorem encodable_of_unmarkedRows {count : Nat} {rows shown : List (List (List Char))}
    (hrows : ∀ r ∈ rows, ∀ c ∈ r, Encodable c) (h : unmarkedRows count rows = .ok shown) :
    ∀ r ∈ shown, ∀ c ∈ r, Encodable c := by
  obtain ⟨columns, hcolumns, heq⟩ := bind_eq_ok.1 h
  cases heq
  have hcolumn : ∀ column ∈ columns, ∀ c ∈ column, Encodable c := by
    intro column hcolumn c hc
    obtain ⟨i, -, hread⟩ := exists_of_mem_mapM hcolumns hcolumn
    obtain ⟨r, hr, hcell⟩ := exists_of_mem_mapM hread hc
    exact encodable_of_unmarked (encodable_getD (hrows r hr) i) hcell
  rw [List.forall_mem_map]
  rintro ⟨_, j⟩ _ c hc
  obtain ⟨column, hmem, rfl⟩ := List.mem_map.1 hc
  exact encodable_getD (hcolumn column hmem) j

theorem encodable_of_render {limit : Nat} {title : String} {head : List String}
    {rows : List (List String)} {ls : List (List Char)}
    (h : render limit title head rows = .ok ls) (htitle : Encodable title.toList)
    (hhead : ∀ c ∈ head, Encodable c.toList) (hrows : ∀ r ∈ rows, ∀ c ∈ r, Encodable c.toList) :
    ∀ l ∈ ls, Encodable l := by
  obtain ⟨shown, hshown, heq⟩ := bind_eq_ok.1 h
  cases heq
  refine encodable_lines limit htitle (List.forall_mem_map.2 hhead)
    (encodable_of_unmarkedRows ?_ hshown)
  rw [List.forall_mem_map]
  exact fun r hr => List.forall_mem_map.2 (hrows r hr)

end Table

/-! Outlines. -/

namespace Outline

inductive IsClear : Outline → Prop
  | node {label : String} {children : List Outline} : Encodable label.toList →
    (∀ o ∈ children, IsClear o) → IsClear (.node label children)

theorem encodable_of_labelLines {columns : Nat} {first others : List Char} {label : String}
    {ls : List (List Char)} (h : labelLines columns first others label = .ok ls)
    (hfirst : Encodable first) (hothers : Encodable others) (hlabel : Encodable label.toList) :
    ∀ l ∈ ls, Encodable l := by
  unfold labelLines at h
  dsimp only at h
  split at h
  · cases h
    exact List.forall_mem_nil _
  · obtain ⟨shown, hshown, h⟩ := bind_eq_ok.1 h
    have hlines := encodable_layout .fold .none (columns - first.length)
      (encodable_of_unmarked hlabel hshown)
    split at h
    · cases h
      exact List.forall_mem_nil _
    · rename_i l r heq
      cases h
      rw [heq] at hlines
      obtain ⟨hl, hr⟩ := List.forall_mem_cons.1 hlines
      refine List.forall_mem_cons.2 ⟨hfirst.append hl, ?_⟩
      rw [List.forall_mem_map]
      exact fun m hm => hothers.append (hr m hm)

mutual

theorem encodable_of_linesOf {columns : Nat} : ∀ {o : Outline} {first others : List Char}
    {ls : List (List Char)}, linesOf columns first others o = .ok ls → Encodable first →
      Encodable others → o.IsClear → ∀ l ∈ ls, Encodable l
  | .node label children, first, others, ls, h, hfirst, hothers, .node hlabel hchildren => by
    rw [linesOf] at h
    obtain ⟨own, hown, h⟩ := bind_eq_ok.1 h
    obtain ⟨below, hbelow, heq⟩ := bind_eq_ok.1 h
    cases heq
    exact List.forall_mem_append.2 ⟨encodable_of_labelLines hown hfirst hothers hlabel,
      encodable_of_childLines hbelow hothers hchildren⟩

theorem encodable_of_childLines {columns : Nat} : ∀ {os : List Outline} {guides : List Char}
    {ls : List (List Char)}, childLines columns guides os = .ok ls → Encodable guides →
      (∀ o ∈ os, o.IsClear) → ∀ l ∈ ls, Encodable l
  | [], _, _, h, _, _ => by
    cases h
    exact List.forall_mem_nil _
  | [o], guides, _, h, hguides, hos => by
    rw [childLines] at h
    exact encodable_of_linesOf h (hguides.append (by decide)) (hguides.append (by decide))
      (hos o List.mem_cons_self)
  | o :: p :: r, guides, _, h, hguides, hos => by
    obtain ⟨ho, hr⟩ := List.forall_mem_cons.1 hos
    rw [childLines] at h
    · obtain ⟨here, hhere, h⟩ := bind_eq_ok.1 h
      obtain ⟨below, hbelow, heq⟩ := bind_eq_ok.1 h
      cases heq
      exact List.forall_mem_append.2 ⟨encodable_of_linesOf hhere (hguides.append (by decide))
        (hguides.append (by decide)) ho, encodable_of_childLines hbelow hguides hr⟩
    · exact List.cons_ne_nil p r

end

theorem encodable_of_render {columns : Nat} {o : Outline} {ls : List (List Char)}
    (h : render columns o = .ok ls) (ho : o.IsClear) : ∀ l ∈ ls, Encodable l :=
  encodable_of_linesOf h encodable_nil encodable_nil ho

end Outline

/-! Panels. -/

namespace Panel

theorem encodable_untabbedFrom (column : Nat) (hs : Encodable s) :
    Encodable (untabbedFrom column s) := by
  fun_induction untabbedFrom column s with
  | case1 => exact encodable_nil
  | case2 column r n ih => exact (encodable_spaces n).append (ih (encodable_cons.1 hs).2)
  | case3 column c r _ ih =>
    obtain ⟨hc, hr⟩ := encodable_cons.1 hs
    exact encodable_cons.2 ⟨hc, ih hr⟩

theorem encodable_withoutMark (hs : Encodable s) : Encodable (withoutMark s) := by
  unfold withoutMark
  split
  · exact (encodable_cons.1 hs).2
  · exact hs

theorem encodable_unifyLineEnds (hs : Encodable s) : Encodable (Text.unifyLineEnds s) := by
  fun_induction Text.unifyLineEnds s with
  | case1 => exact encodable_nil
  | case2 r ih =>
    have hr := (encodable_cons.1 (encodable_cons.1 hs).2).2
    exact encodable_cons.2 ⟨by decide, ih hr⟩
  | case3 c r _ ih =>
    obtain ⟨hc, hr⟩ := encodable_cons.1 hs
    refine encodable_cons.2 ⟨?_, ih hr⟩
    split
    · decide
    · exact hc

def Line.IsClear (l : Line) : Prop := ∀ t ∈ l, Encodable t

variable {l : Line}

theorem encodable_text (h : l.IsClear) : Encodable l.text := by
  intro c hc
  obtain ⟨t, ht, hc⟩ := List.mem_flatten.1 hc
  exact h t ht c hc

theorem clear_linesOf {stretches : List (List Char)} (h : ∀ t ∈ stretches, Encodable t) :
    ∀ l ∈ linesOf stretches, l.IsClear := by
  have hpieces {t : List Char} (ht : Encodable t) : ∀ piece ∈ Text.pieces t, Encodable piece :=
    fun piece hpiece => ht.of_subset (Text.subset_of_mem_pieces hpiece)
  fun_induction linesOf stretches with
  | case1 => exact List.forall_mem_singleton.2 (List.forall_mem_nil _)
  | case2 t r _ ih => exact ih (List.forall_mem_cons.1 h).2
  | case3 t r piece line lines hlines hsplit ih =>
    obtain ⟨ht, hr⟩ := List.forall_mem_cons.1 h
    have hbelow := ih hr
    rw [hlines] at hbelow
    obtain ⟨hline, hrest⟩ := List.forall_mem_cons.1 hbelow
    have hpiece : Encodable piece := hpieces ht piece (hsplit ▸ List.mem_cons_self)
    exact List.forall_mem_cons.2 ⟨List.forall_mem_cons.2 ⟨hpiece, hline⟩, hrest⟩
  | case4 t r line lines hlines _ _ ih =>
    obtain ⟨ht, hr⟩ := List.forall_mem_cons.1 h
    have hbelow := ih hr
    rw [hlines] at hbelow
    obtain ⟨hline, hrest⟩ := List.forall_mem_cons.1 hbelow
    refine List.forall_mem_append.2 ⟨?_, List.forall_mem_cons.2 ⟨?_, hrest⟩⟩
    · rw [List.forall_mem_map]
      exact fun piece hpiece => List.forall_mem_singleton.2
        (hpieces ht piece (List.dropLast_subset _ hpiece))
    · refine List.forall_mem_append.2 ⟨fun piece hpiece => ?_, hline⟩
      exact hpieces ht piece (List.mem_of_getLast? (Option.mem_toList.1 hpiece))
  | case5 t r _ _ ih =>
    rw [List.forall_mem_map]
    exact fun piece hpiece => List.forall_mem_singleton.2
      (hpieces (List.forall_mem_cons.1 h).1 piece hpiece)

theorem clear_shown (hs : Encodable s) :
    ∀ l ∈ linesOf ((Listing.cut (Text.unifyLineEnds (withoutMark s))).map
      fun t => t.filter Markup.shows), l.IsClear := by
  have hcut := Listing.encodable_of_mem_cut (encodable_unifyLineEnds (encodable_withoutMark hs))
  refine clear_linesOf ?_
  rw [List.forall_mem_map]
  exact fun t ht => (hcut t ht).of_sublist List.filter_sublist

theorem clear_listing (hs : Encodable s) : ∀ l ∈ listing s, l.IsClear := by
  intro l hl
  unfold listing at hl
  dsimp only at hl
  split at hl
  · exact clear_shown (encodable_untabbedFrom 0 hs) l hl
  · have hended := hs.append (encodable_singleton.2 (by decide : Text.isHalf '\n' = false))
    exact clear_shown (encodable_untabbedFrom 0 hended) l (List.dropLast_subset _ hl)

theorem encodable_cutTo (room : Nat) (h : l.IsClear) : Encodable (l.cutTo room) := by
  induction l generalizing room with
  | nil => exact encodable_nil
  | cons t r ih =>
    obtain ⟨ht, hr⟩ := List.forall_mem_cons.1 h
    rw [Line.cutTo]
    split
    · exact ht.append (ih _ hr)
    · exact encodable_fit room ht

theorem clear_front (count : Nat) (h : l.IsClear) : (l.front count).IsClear := by
  induction l generalizing count with
  | nil => exact h
  | cons t r ih =>
    obtain ⟨ht, hr⟩ := List.forall_mem_cons.1 h
    rw [Line.front]
    split
    · exact List.forall_mem_cons.2 ⟨ht, ih _ hr⟩
    · exact List.forall_mem_singleton.2 (ht.of_sublist (List.take_sublist _ _))

theorem encodable_fitted (room : Nat) (h : l.IsClear) : Encodable (l.fitted room) := by
  have hfilled (line : Line) (hline : line.IsClear) :
      Encodable (if line.width ≤ room then line.text ++ spaces (room - line.width)
        else line.cutTo room) := by
    split
    · exact (encodable_text hline).append (encodable_spaces _)
    · exact encodable_cutTo room hline
  unfold Line.fitted
  refine hfilled _ ?_
  split
  · exact List.forall_mem_append.2 ⟨h, List.forall_mem_singleton.2 (encodable_spaces _)⟩
  · refine List.forall_mem_append.2 ⟨clear_front _ h, List.forall_mem_singleton.2 ?_⟩
    exact (encodable_fit room (encodable_text h)).of_sublist (List.drop_sublist _ _)

theorem encodable_upperEdge (room : Nat) (hs : Encodable s) : Encodable (upperEdge room s) := by
  have hone : Encodable (s.map fun c => if c = '\n' then ' ' else c) := by
    unfold Text.Encodable
    rw [List.forall_mem_map]
    intro c hc
    split
    · decide
    · exact hs c hc
  have hshown : Encodable (' ' :: untabbed Console.tabStops
      (s.map fun c => if c = '\n' then ' ' else c) ++ [' ']) :=
    (encodable_cons.2 ⟨by decide, encodable_untabbed _ hone⟩ : Encodable (_ :: _)).append
      (by decide)
  unfold upperEdge
  dsimp only
  simp only [encodable_append]
  refine ⟨⟨⟨⟨by decide, encodable_replicate (by decide) _⟩, encodable_cropped room hshown⟩,
    encodable_replicate (by decide) _⟩, by decide⟩

theorem encodable_of_render {columns : Nat} {title code : String} {ls : List (List Char)}
    (h : render columns title code = .ok ls) (htitle : Encodable title.toList)
    (hcode : Encodable code.toList) : ∀ l ∈ ls, Encodable l := by
  obtain ⟨shown, hshown, rfl⟩ := map_eq_ok.1 h
  unfold lines
  dsimp only
  refine List.forall_mem_cons.2
    ⟨encodable_upperEdge _ (encodable_of_unmarked htitle hshown), ?_⟩
  refine List.forall_mem_append.2 ⟨?_, List.forall_mem_singleton.2 ?_⟩
  · rw [List.forall_mem_map]
    intro l hl
    exact (Text.Encodable.append (by decide) (encodable_fitted _ (clear_listing hcode l hl))).append
      (by decide)
  · exact Text.Encodable.append (encodable_cons.2 ⟨by decide, encodable_replicate (by decide) _⟩)
      (by decide)

end Panel

end Console
end UmlPress
