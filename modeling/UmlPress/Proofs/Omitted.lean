import UmlPress.Proofs.ClassPage
import UmlPress.Proofs.Companions

/-!
# Members that are left out

Static attributes, operations without a name and the results of operations leave nothing
on the page of a class: the page is that of the class without them. Only whether a class
has members at all is told from all of them, so a class that loses its last member that
way has another page.
-/
namespace UmlPress

def Operation.trim (o : Operation) : Operation := { o with parameters := o.inputs }

def Shape.trim : Shape → Shape
  | .classifier isInterface attributes operations =>
    .classifier isInterface (attributes.filter (!·.isStatic))
      ((operations.filter (·.name.truthy)).map .trim)
  | shape => shape

namespace Element

def trim : Element → Element
  | .node facts shape owned => .node facts shape.trim owned

def hasMembers (e : Element) : Bool :=
  match e.members? with
  | some (attributes, operations) => !(attributes.isEmpty && operations.isEmpty)
  | none => false

end Element

theorem Operation.inputs_trim (o : Operation) : o.trim.inputs = o.inputs := by
  rw [trim, inputs, inputs, List.filter_filter]
  simp only [Bool.and_self]

theorem Operation.Matched.trim (o : Operation) : o.Matched Eq o.trim :=
  ⟨rfl, rfl, o.inputs_trim.symm, rfl⟩

/-- The members that are left match all members, if there are any of them at all. -/
theorem MembersMatched.trim {attributes : List Attribute} {operations : List Operation}
    (hleft : ((attributes.filter (!·.isStatic)).isEmpty &&
      ((operations.filter (·.name.truthy)).map Operation.trim).isEmpty) =
      (attributes.isEmpty && operations.isEmpty)) :
    MembersMatched Eq (attributes, operations) (attributes.filter (!·.isStatic),
      (operations.filter (·.name.truthy)).map .trim) where
  empty := hleft.symm
  attributes := by
    have hkept : Aligned (!·.isStatic) Eq attributes ((attributes.filter (!·.isStatic)).map id) :=
      .filter_map _ id (fun _ => rfl) (fun _ => rfl) attributes
    rwa [List.map_id] at hkept
  operations := .filter_map _ Operation.trim (fun _ => rfl) .trim operations

theorem Element.hasMembers_of_trim {e : Element} (h : e.trim.hasMembers = true) :
    e.hasMembers = true := by
  obtain ⟨facts, shape, owned⟩ := e
  cases shape with
  | classifier isInterface attributes operations =>
    by_contra hnone
    obtain ⟨rfl, rfl⟩ : attributes = [] ∧ operations = [] := by
      simpa [hasMembers, members?, Element.shape] using hnone
    cases h
  | _ => cases h

theorem Element.Matched.trim {e : Element}
    (hleft : e.trim.hasMembers = true ∨ e.hasMembers = false) : e.Matched Eq e.trim := by
  have hsame : e.trim.hasMembers = e.hasMembers := by
    rcases hleft with hsome | hnone
    · rw [hsome, hasMembers_of_trim hsome]
    · rw [hnone]
      by_contra hsome
      rw [Bool.not_eq_false] at hsome
      rw [hasMembers_of_trim hsome] at hnone
      cases hnone
  obtain ⟨facts, shape, owned⟩ := e
  cases shape with
  | classifier isInterface attributes operations =>
    exact ⟨rfl, rfl, rfl, rfl, .some (.trim (Bool.not_inj hsame))⟩
  | _ => exact .of_eq _

namespace Emit.Workshop

/-- A class is written like the one without the members that are left out, unless it
has no other members. -/
theorem writeClass_trim (w : Workshop) (e : Element) (sheet : Sheet) (notes notes' : List Note)
    (supply supply' : Supply) (hleft : e.trim.hasMembers = true ∨ e.hasMembers = false) :
    let whole := (w.writeClass e).run.run ⟨sheet, notes, supply, .ok none⟩
    let trimmed := (w.writeClass e.trim).run.run ⟨sheet, notes', supply', .ok none⟩
    whole.1 = trimmed.1 ∧ whole.2.sheet = trimmed.2.sheet := by
  have hpages := (Companions.self sheet.unit 0 w).writeClass (d := sheet.depth) (.trim hleft)
  have hblocks : docBlocks (fun _ _ => []) sheet.depth e.trim = [] := by simp [docBlocks]
  exact (hpages.of_eq hblocks).run_eq notes notes' supply supply'

/-- A class with an attribute, an operation and a result that its page leaves out. -/
theorem writeClass_trim_ordering :
    let order : Element := .node orderFacts (.classifier false orderAttributes orderOperations) []
    let kept : Element := .node orderFacts (.classifier false
      [⟨.text "total", .text "int", false⟩]
      [⟨.text "open", .text "Opens.", true, [⟨.text "at", .text "", .text "in"⟩]⟩]) []
    let sheet : Sheet := ⟨"\t", 1, ["first"]⟩
    let whole := (ordering.writeClass order).run.run ⟨sheet, [], {}, .ok none⟩
    let trimmed := (ordering.writeClass kept).run.run ⟨sheet, [], {}, .ok none⟩
    order.trim = kept ∧ whole.1 = trimmed.1 ∧ whole.2.sheet = trimmed.2.sheet := by
  intro order kept sheet
  have hkept : order.trim = kept := rfl
  have hpages := writeClass_trim ordering order sheet [] [] {} {} (.inl rfl)
  rw [hkept] at hpages
  exact ⟨hkept, hpages⟩

end Emit.Workshop
end UmlPress
