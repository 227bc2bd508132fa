import UmlPress.Emit.Walk

/-!
# How pages are composed

A page is composed step by step on a bench, and the first trouble ends it. What
a step does is told here by the bench it leaves. Templates are taken from one shelf,
whatever has been supplied before, as long as the same is found at their directory.
-/
namespace UmlPress

def Json.isText : Json → Bool
  | .text _ => true
  | _ => false

def Json.isDoc (v : Json) : Bool := !v.truthy || v.isText

def Shape.isTyped : Shape → Bool
  | .classifier _ attributes operations =>
    (attributes.all fun a => a.name.isText) && operations.all fun o => o.doc.isDoc
  | _ => true

mutual

def Element.isTyped : Element → Bool
  | .node facts shape owned =>
    facts.name.isText && facts.doc.isDoc && shape.isTyped && Element.areTyped owned

def Element.areTyped : List Element → Bool
  | [] => true
  | e :: r => e.isTyped && Element.areTyped r

end

theorem Json.eq_of_isText {v : Json} (h : v.isText = true) : ∃ s, v = .text s := by
  cases v with
  | text s => exact ⟨s, rfl⟩
  | _ => cases h

namespace Element

theorem areTyped_iff {es : List Element} : areTyped es = true ↔ ∀ e ∈ es, e.isTyped = true := by
  induction es with
  | nil => simp [areTyped]
  | cons e r ih => simp [areTyped, ih]

theorem isTyped_iff {e : Element} : e.isTyped = true ↔
    e.name.isText = true ∧ e.facts.doc.isDoc = true ∧ e.shape.isTyped = true ∧
      ∀ c ∈ e.owned, c.isTyped = true := by
  obtain ⟨facts, shape, owned⟩ := e
  simp [isTyped, areTyped_iff, name, Element.facts, Element.shape, Element.owned, and_assoc]

end Element

namespace Emit

theorem Composing.run_bind {α β : Type} (x : Composing α) (f : α → Composing β) (b : Bench) :
    (x >>= f).run.run b = match x.run.run b with
      | (.ok a, next) => (f a).run.run next
      | (.error t, next) => (.error t, next) := by
  rw [ExceptT.run_bind, StateT.run_bind]
  rcases x.run.run b with ⟨_ | a, next⟩ <;> rfl

theorem Composing.run_get (b : Bench) : (get : Composing Bench).run.run b = (.ok b, b) := rfl

theorem Composing.run_ofMisuse {α : Type} (r : Except Misuse α) (b : Bench) :
    (Composing.ofMisuse r).run.run b = (r.mapError .misuse, b) := by
  cases r <;> rfl

namespace Stock
open Template

/-- Every template in stock can be used. -/
theorem eq_tree_of_find? {name : String} {source : Source} (h : folder.find? name = some source) :
    ∃ t, source = .tree t := by
  unfold Folder.find? at h
  cases hway : way? name with
  | none =>
    rw [hway] at h
    cases h
  | some way =>
    rw [hway] at h
    have hall : ∀ e ∈ folder, ∃ t, e.2 = .tree t := by simp [folder]
    exact hall _ (Keyed.mem_of_get? h)

end Stock

namespace Supply
open Template

/-- What has been supplied agrees with what is found at the directory of templates:
the directory was there, and what was taken from stock is not in it. -/
def Fits (s : Supply) (folder? : Option Folder) : Prop :=
  ∀ f, folder? = some f → s.hasOwn? ≠ some false ∧ ∀ name ∈ s.fromStock, f.find? name = none

theorem fits_empty (folder? : Option Folder) : ({} : Supply).Fits folder? :=
  fun _ _ => ⟨by simp, by simp⟩

theorem fits_none (s : Supply) : s.Fits none := by
  rintro f ⟨⟩

/-- All that templates are taken from while one thing is found at their directory. -/
def shelfOf (folder? : Option Folder) : Shelf := { folders := folder?.toList ++ [Stock.folder] }

variable {s : Supply} {folder? : Option Folder}

theorem own_of_fits (h : s.Fits folder?) : s.own folder? = folder? := by
  cases folder? with
  | none => simp [own]
  | some f =>
    obtain ⟨howned, hstock⟩ := h f rfl
    have hopen : s.hasOwn?.getD (some f).isSome = true := by
      cases hown : s.hasOwn? with
      | none => rfl
      | some b =>
        cases b with
        | true => rfl
        | false => exact absurd hown howned
    rw [own, if_pos hopen, Option.map_some, List.filter_eq_self.2]
    intro e he
    rw [Bool.not_eq_true', List.any_eq_false]
    intro name hname hway
    have hnone := hstock name hname
    rw [Folder.find?, of_decide_eq_true hway] at hnone
    exact Keyed.get?_ne_none_of_mem he hnone

theorem shelf_eq_of_fits (h : s.Fits folder?) (name : String) :
    s.shelf (.ok folder?) name = .ok (shelfOf folder?,
      { hasOwn? := some (s.hasOwn?.getD folder?.isSome)
        fromStock := if !(folder?.bind (Folder.find? name)).isSome &&
            (Folder.find? name Stock.folder).isSome && !s.fromStock.contains name then
          name :: s.fromStock else s.fromStock }) := by
  have hown := own_of_fits h
  by_cases hclosed : s.hasOwn? = some false
  · cases folder? with
    | none => simp [shelf, hclosed, hown, shelfOf, bind, Except.bind, pure, Except.pure]
    | some f => exact absurd hclosed (h f rfl).1
  · simp [shelf, hclosed, hown, shelfOf, bind, Except.bind, pure, Except.pure]

/-- A supply that fits goes on to fit, and does not tell which template is taken. -/
theorem shelf_of_fits (h : s.Fits folder?) (name : String) :
    ∃ next : Supply, s.shelf (.ok folder?) name = .ok (shelfOf folder?, next) ∧ next.Fits folder? := by
  refine ⟨_, shelf_eq_of_fits h name, ?_⟩
  rintro f rfl
  obtain ⟨howned, hstock⟩ := h f rfl
  constructor
  · rcases hown : s.hasOwn? with _ | _ | _
    · simp
    · exact absurd hown howned
    · simp
  · dsimp only
    split
    · rename_i hnew
      refine List.forall_mem_cons.2 ⟨?_, hstock⟩
      cases hfind : f.find? name with
      | none => rfl
      | some source => simp [hfind] at hnew
    · exact hstock

end Supply

namespace Workshop
variable {w : Workshop}

theorem run_targets (w : Workshop) (e : Element) (b : Bench) :
    (w.targets e).run.run b = (match w.snapshot.targets e with
      | .error m => .error (.misuse m)
      | .ok r => r.mapError .fault, b) := by
  rw [targets, Composing.run_bind, Composing.run_ofMisuse]
  rcases w.snapshot.targets e with m | f | ts <;> rfl

/-- Inherited elements that are not found are all that can be wrong with them. -/
theorem eq_unresolved_of_targetsOf {s : Snapshot} {e : Element} {edges : List Edge} {f : Fault}
    (h : s.targetsOf e edges = .ok (.error f)) : ∃ source target, f = .unresolved source target := by
  induction edges with
  | nil => cases h
  | cons edge r ih =>
    rw [Snapshot.targetsOf] at h
    split at h
    · cases hfind : s.find edge.target with
      | error m =>
        rw [hfind] at h
        cases h
      | ok found =>
        rw [hfind] at h
        cases found with
        | none =>
          cases h
          exact ⟨_, _, rfl⟩
        | some spot =>
          change (s.qualifiedPath spot.element).bind _ = _ at h
          cases hpath : s.qualifiedPath spot.element with
          | error m =>
            rw [hpath] at h
            cases h
          | ok path =>
            rw [hpath] at h
            change (s.targetsOf e r).bind _ = _ at h
            rcases hrest : s.targetsOf e r with m | f' | ts
            · rw [hrest] at h
              cases h
            · rw [hrest] at h
              cases h
              exact ih hrest
            · rw [hrest] at h
              cases h
    · exact ih h

/-- A template is taken from the directory if it is there, and else from stock. -/
theorem run_shelf (w : Workshop) (template : String) {b : Bench} {folder? : Option Template.Folder}
    (hb : b.found = .ok folder?) (hs : b.supply.Fits folder?) :
    ∃ supply : Supply, (w.shelf template).run.run b =
      (.ok (Supply.shelfOf folder?), { b with supply }) ∧ supply.Fits folder? := by
  obtain ⟨supply, hshelf, hfits⟩ := Supply.shelf_of_fits hs template
  refine ⟨supply, ?_, hfits⟩
  rw [shelf, Composing.run_bind, Composing.run_get]
  dsimp only
  rw [hb, hshelf]
  rfl

/-- A page of a class is not composed unless all inherited elements are found. -/
theorem targets_of_page {e : Element} {found : Found} {supply : Supply} {text : String}
    (h : (w.page found supply (w.writeClass e)).1 = .ok text) :
    ∃ ts, w.snapshot.targets e = .ok (.ok ts) := by
  rw [page, writeClass, Composing.run_bind, run_targets] at h
  cases ht : w.snapshot.targets e with
  | error m =>
    rw [ht] at h
    cases h
  | ok r =>
    cases r with
    | error f =>
      rw [ht] at h
      cases h
    | ok ts => exact ⟨ts, rfl⟩

theorem exists_docText {doc : Json} (h : doc.isDoc = true) : ∃ text, docText doc = .ok text := by
  unfold docText
  cases ht : doc.truthy with
  | false => exact ⟨_, rfl⟩
  | true =>
    rw [Json.isDoc, ht] at h
    obtain ⟨s, rfl⟩ := Json.eq_of_isText (by simpa using h)
    exact ⟨_, rfl⟩

theorem exists_accessor {a : Attribute} (h : a.name.isText = true) :
    ∃ vars, accessor a = .ok vars := by
  obtain ⟨s, hs⟩ := Json.eq_of_isText h
  unfold accessor Naming.accessorFragment
  rw [hs, Naming.formatName_text]
  exact ⟨_, rfl⟩

theorem exists_typeName {e : Element} (w : Workshop) (h : e.isTyped = true) :
    ∃ s, w.typeName e.name = .ok s := by
  obtain ⟨s, hs⟩ := Json.eq_of_isText (Element.isTyped_iff.1 h).1
  unfold typeName Naming.typeName
  rw [hs, Naming.formatName_text]
  exact ⟨_, rfl⟩

end Workshop
end Emit
end UmlPress
