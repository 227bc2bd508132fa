import Mathlib.Data.List.TakeWhile
import UmlPress.Proofs.ClassPage
import UmlPress.Proofs.Companions
import UmlPress.Proofs.Complete
import UmlPress.Proofs.Overlay
import UmlPress.Proofs.Unread

/-!
# Pages without documentations

No template in stock looks at the options. Where documentations are switched off, a page
is the one that is written, with documentations switched on, of an element whose
documentations are all blank. Written with its own documentations the page has the same
lines, with one block for each documentation between them.
-/
namespace UmlPress

def Json.isBlank : Json → Bool
  | .text s => s.toList.all Text.isBlank
  | _ => false

structure Operation.Hushed (o o' : Operation) : Prop where
  rest : o' = { o with doc := o'.doc }
  blank : o'.doc.isBlank = true

/-- An element with other documentations, its own and those of its operations, which are
blank. -/
inductive Element.Hushed : Element → Element → Prop
  | classifier {facts doc isInterface attributes operations operations' owned}
    (hdoc : doc.isBlank = true)
    (hoperations : List.Forall₂ Operation.Hushed operations operations') :
    Hushed (.node facts (.classifier isInterface attributes operations) owned)
      (.node { facts with doc } (.classifier isInterface attributes operations') owned)
  | enumeration {facts doc literals owned} (hdoc : doc.isBlank = true) :
    Hushed (.node facts (.enumeration literals) owned)
      (.node { facts with doc } (.enumeration literals) owned)

theorem Aligned.of_forall₂ {α : Type} {kept : α → Bool} {R : α → α → Prop} {as bs : List α}
    (hkept : ∀ a b, R a b → kept a = kept b) (h : List.Forall₂ R as bs) : Aligned kept R as bs := by
  induction h with
  | nil => exact .nil
  | @cons a b _ _ hab _ ih =>
    cases hk : kept b with
    | true => exact .both ((hkept a b hab).trans hk) hk hab ih
    | false => exact .left ((hkept a b hab).trans hk) (.right hk ih)

def Blanked (_ doc' : Json) : Prop := doc'.isBlank = true

theorem Operation.Hushed.matched {o o' : Operation} (h : o.Hushed o') : o.Matched Blanked o' := by
  obtain ⟨hrest, hblank⟩ := h
  rw [hrest]
  exact ⟨rfl, rfl, rfl, hblank⟩

theorem Element.Hushed.matched {e e' : Element} (h : e.Hushed e') : e.Matched Blanked e' := by
  cases h with
  | enumeration hdoc => exact ⟨rfl, rfl, hdoc, rfl, .none⟩
  | classifier hdoc hoperations =>
    have hmatched := hoperations.imp fun o o' h => h.matched
    refine ⟨rfl, rfl, hdoc, rfl, .some ⟨?_, .refl fun _ _ => rfl, ?_⟩⟩
    · cases hoperations <;> rfl
    · exact .of_forall₂ (fun o o' h => congrArg Json.truthy h.name) hmatched

namespace Emit
open Layout Composing Template

/-- No template in stock reads the options. -/
theorem Stock.ignores_config : (Stock.folder.all fun e => match e.2 with
    | .tree t => ignoresTree "config" t
    | _ => true) = true := by
  decide +kernel

theorem Stock.ignores_config_of_find? {name : String} {tree : Tree}
    (h : (Supply.shelfOf none).find? name = some (.ok tree)) :
    ignoresTree "config" tree = true := by
  have hfolder : (Stock.folder.find? name).map (Source.tree? name) = some (.ok tree) := by
    have hsource : (Supply.shelfOf none).source? name = Stock.folder.find? name := by
      simp only [Shelf.source?, Supply.shelfOf, Keyed.get?, Option.toList_none, List.nil_append,
        List.findSome?_cons, List.findSome?_nil]
      cases Stock.folder.find? name <;> rfl
    rwa [Shelf.find?, hsource] at h
  obtain ⟨source, hsource, htree⟩ := Option.map_eq_some_iff.1 hfolder
  obtain ⟨t, rfl⟩ := eq_tree_of_find? hsource
  obtain rfl : t = tree := Except.ok.inj htree
  obtain ⟨way, hway, hget⟩ := Option.bind_eq_some_iff.1 hsource
  exact List.all_eq_true.1 Stock.ignores_config _ (Keyed.mem_of_get? hget)

namespace Workshop

def documented (w : Workshop) (b : Bool) : Workshop :=
  { w with options := { w.options with docString := b } }

/-- What a template in stock writes does not depend on the switch. -/
theorem render_documented (w : Workshop) (b : Bool) (template : String)
    (vars : Keyed String Value) :
    (Supply.shelfOf none).render template ((w.documented b).common.update vars) =
      (Supply.shelfOf none).render template (w.common.update vars) := by
  refine Shelf.render_congr (fun _ => Stock.ignores_config_of_find?)
    (Keyed.keys_update_congr vars rfl) fun y hy => ?_
  have hcommon : Keyed.get? y w.common = Keyed.get? y (w.documented b).common := by
    simp only [common, Keyed.get?, if_neg (Ne.symm hy)]
    rfl
  rw [Keyed.get?_update, Keyed.get?_update, hcommon]

theorem docText_of_isBlank {doc : Json} (h : doc.isBlank = true) : docText doc = .ok "" := by
  cases doc with
  | text s =>
    have hdropped : s.toList.dropWhile Text.isBlank = [] :=
      List.dropWhile_eq_nil_iff.2 (List.all_eq_true.1 h)
    have htrim : trimText s = "" := by
      rw [trimText, Text.trim, hdropped]
      rfl
    rw [docText]
    split
    · rfl
    · rw [htrim]
  | _ => cases h

/-- With documentations off on the first side and on on the second, only the writing of
documentations has to be compared. -/
theorem companions_of_writeDoc (w : Workshop) {unit : String} {D : Json → Json → Prop}
    {block : Nat → Json → List (List String)}
    (hdoc : ∀ doc doc', D doc doc' → ∀ d,
      Abreast unit 0 d (pure ()) ((w.documented true).writeDoc doc') (block d doc') d) :
    Companions unit 0 (w.documented false) (w.documented true) D block where
  snapshot := rfl
  namePrefix := rfl
  baseClass := rfl
  render template vars := by rw [render_documented, render_documented]
  doc := by
    intro doc doc' h d
    exact hdoc doc doc' h d

theorem companions_blanked (w : Workshop) (unit : String) :
    Companions unit 0 (w.documented false) (w.documented true) Blanked fun _ _ => [] := by
  apply companions_of_writeDoc
  intro _ doc' hblank d
  have hsilent : (w.documented true).writeDoc doc' = pure () := by
    rw [writeDoc, docText_of_isBlank hblank]
    rfl
  rw [hsilent]
  exact .pure ()

/-- With its own documentations the second side writes a block for each of them. -/
theorem companions_documented (w : Workshop) (unit : String) :
    Companions unit 0 (w.documented false) (w.documented true)
      (fun doc doc' => doc = doc' ∧ doc.isDoc = true)
      fun d doc => [insetBy unit d ((w.documented true).docLines doc)] := by
  apply companions_of_writeDoc
  rintro doc _ ⟨rfl, hdoc⟩ d
  exact .of_block (.pure ()) ((w.documented true).prints_writeDoc hdoc unit)

/-- The blocks that the documentations of an element take on its page: its own, and the one
of each operation with a name. -/
def documentations (sheet : Sheet) (e : Element) : List (List String) :=
  insetBy sheet.unit (sheet.depth + 1) (fenced (splitLines (docOf e.facts.doc))) ::
    e.stubbed.map fun o => insetBy sheet.unit (sheet.depth + 2) (fenced (splitLines (docOf o.doc)))

theorem docBlocks_documented (w : Workshop) (sheet : Sheet) (e : Element) :
    docBlocks (fun d doc => [insetBy sheet.unit d ((w.documented true).docLines doc)])
      sheet.depth e = documentations sheet e := by
  rw [docBlocks, documentations, ← List.map_eq_flatMap]
  rfl

/-- With documentations switched off, a page has the lines that it has, with them switched
on, for blank documentations. Its own documentations, which are texts or nothing, only put
blocks of lines between these, and what follows trouble is missing on both pages. -/
theorem writePage_silent (w : Workshop) (kind : PageKind) (e e' : Element) (sheet : Sheet)
    (notes notes' notes'' : List Note) (supply supply' supply'' : Supply)
    (hblank : e.Hushed e') :
    let off := ((w.documented false).writePage kind e).run.run ⟨sheet, notes, supply, .ok none⟩
    let blank := ((w.documented true).writePage kind e').run.run ⟨sheet, notes', supply', .ok none⟩
    let on := ((w.documented true).writePage kind e).run.run ⟨sheet, notes'', supply'', .ok none⟩
    (off.1 = blank.1 ∧ off.2.sheet = blank.2.sheet) ∧
      (e.facts.doc.isDoc = true → (∀ o ∈ e.stubbed, o.doc.isDoc = true) →
        off.1 = on.1 ∧ ∃ added shown blocks, off.2.sheet.lines = sheet.lines ++ added ∧
          on.2.sheet.lines = sheet.lines ++ shown ∧ Inserted blocks added shown ∧
          blocks <+: documentations sheet e ∧
          (off.1 = .ok () → blocks = documentations sheet e)) := by
  intro off blank on
  constructor
  · have hpages := (w.companions_blanked sheet.unit).writePage (d := sheet.depth) kind
      hblank.matched
    have hnone : docBlocks (fun _ _ => []) sheet.depth e' = [] := by simp [docBlocks]
    exact (hpages.of_eq hnone).run_eq notes notes' supply supply'
  · intro hdoc hstubbed
    have hpages := (w.companions_documented sheet.unit).writePage (d := sheet.depth) kind
      (.refl ⟨rfl, hdoc⟩ fun o ho => ⟨rfl, hstubbed o ho⟩ : e.Matched _ e)
    rw [docBlocks_documented] at hpages
    obtain ⟨r, added, shown, blocks, d, hoff, hon, hins, hblocks, hend⟩ := hpages
    obtain ⟨_, _, hoff⟩ := hoff sheet.lines notes supply
    obtain ⟨_, _, hon⟩ := hon sheet.lines notes'' supply''
    simp only [Nat.add_zero, insetBy] at hon hins
    have hoff' : off = _ := hoff
    have hon' : on = _ := hon
    rw [hoff', hon']
    exact ⟨rfl, added, shown, blocks, rfl, rfl, hins, hblocks, fun hok => (hend () hok).2⟩

def memoOf (doc opened unnamed : String) : Element :=
  .node ⟨.text "n", .text "memo", .text doc⟩ (.classifier false orderAttributes
    [⟨.text "open", .text opened, false, []⟩, ⟨.text "", .text unnamed, false, []⟩]) []

def memo : Element := memoOf " First.\n\n  Second.\r\n" "Opens." "Never seen."

theorem completes_memo :
    Completes [] ((ordering.documented false).writePage .ofClass memo) := by
  have htargets : (ordering.documented false).snapshot.targets memo = .ok (.ok []) := by
    with_unfolding_all rfl
  have htext (s : String) (h : Text.Encodable s.toList) : (Json.text s).IsTextOf (Whole []) :=
    ⟨s, rfl, .of_encodable h⟩
  have hshape : memo.shape.Speaks (Whole []) := by
    have hnil (P : Parameter → Prop) : ∀ p ∈ [], P p := List.forall_mem_nil P
    simp only [memo, memoOf, Element.shape, Shape.Speaks, orderAttributes, List.forall_mem_cons]
    refine ⟨⟨⟨htext _ ?_, htext _ ?_⟩, ⟨htext _ ?_, htext _ ?_⟩, List.forall_mem_nil _⟩,
      ⟨htext _ ?_, htext _ ?_, hnil _⟩, ⟨htext _ ?_, htext _ ?_, hnil _⟩, List.forall_mem_nil _⟩
    all_goals decide +kernel
  exact completes_writeClass rfl (.of_encodable (by decide)) (.of_encodable (by decide))
    (htext _ (by decide)) (htext _ (by decide)) hshape htargets (List.forall_mem_nil _)

/-- The documentation of an operation without a name is not seen. -/
theorem writePage_silent_memo :
    let sheet : Sheet := ⟨"\t", 1, ["first"]⟩
    let off := ((ordering.documented false).writePage .ofClass memo).run.run
      ⟨sheet, [], {}, .ok none⟩
    let blank := ((ordering.documented true).writePage .ofClass
      (memoOf "" " \n\t" "\u2028")).run.run ⟨sheet, [], {}, .ok none⟩
    let on := ((ordering.documented true).writePage .ofClass memo).run.run
      ⟨sheet, [], {}, .ok none⟩
    off.2.sheet = blank.2.sheet ∧ on.1 = .ok () ∧
      ∃ added shown, off.2.sheet.lines = ["first"] ++ added ∧
        on.2.sheet.lines = ["first"] ++ shown ∧
        Inserted [["\t\t///\"\"\"", "\t\tFirst.", "", "\t\t  Second.", "\t\t///\"\"\""],
          ["\t\t\t///\"\"\"Opens.\"\"\""]] added shown := by
  have hhushed : memo.Hushed (memoOf "" " \n\t" "\u2028") :=
    .classifier rfl (.cons ⟨rfl, by decide +kernel⟩ (.cons ⟨rfl, by decide +kernel⟩ .nil))
  have hstubbed : ∀ o ∈ memo.stubbed, o.doc.isDoc = true := List.all_eq_true.1 (by decide +kernel)
  have hdocumentations : documentations ⟨"\t", 1, ["first"]⟩ memo =
      [["\t\t///\"\"\"", "\t\tFirst.", "", "\t\t  Second.", "\t\t///\"\"\""],
        ["\t\t\t///\"\"\"Opens.\"\"\""]] := by
    decide +kernel
  obtain ⟨_, _, hrun, -⟩ := completes_memo ⟨⟨"\t", 1, ["first"]⟩, [], {}, .ok none⟩
    ⟨rfl, .of_encodable (by decide), List.forall_mem_singleton.2 (.of_encodable (by decide))⟩
  obtain ⟨⟨-, hblank⟩, hdocumented⟩ := writePage_silent ordering .ofClass memo
    (memoOf "" " \n\t" "\u2028") ⟨"\t", 1, ["first"]⟩ [] [] [] {} {} {} hhushed
  obtain ⟨hon, added, shown, blocks, hadded, hshown, hins, -, hblocks⟩ := hdocumented rfl hstubbed
  have hoff := congrArg Prod.fst hrun
  rw [hblocks hoff, hdocumentations] at hins
  exact ⟨hblank, hon.symm.trans hoff, added, shown, hadded, hshown, hins⟩

end Workshop
end Emit
end UmlPress
