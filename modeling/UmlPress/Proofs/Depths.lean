import UmlPress.Proofs.ClassPage
import UmlPress.Proofs.Companions

/-!
# What is written deeper down

A workshop takes no notice of the depth at which it writes: on a sheet that stands some
levels deeper it appends the lines that it appends at depth zero, moved in by as many
levels, and every way through a part leaves as often as it goes in. This holds of each part
of a page by itself.
-/
namespace UmlPress.Emit

/-- The parts of a page that can be written by themselves, and pages as a whole. -/
inductive Piece where
  | doc (doc : Json)
  | setters (e : Element)
  | getters (e : Element)
  | method (o : Operation)
  | page (kind : Workshop.PageKind) (e : Element)

namespace Workshop
open Layout Composing
variable {unit : String} {k d : Nat}

def write (w : Workshop) : Piece → Composing Unit
  | .doc doc => w.writeDoc doc
  | .setters e => w.writeSetters e
  | .getters e => w.writeGetters e
  | .method o => w.writeMethod o
  | .page kind e => w.writePage kind e

/-- The accessors of an element, if it can have any. -/
theorem abreast_accessors (w : Workshop) (template : String) (e : Element) :
    Abreast unit k d (members e >>= fun ms => w.writeAccessors template ms.1)
      (members e >>= fun ms => w.writeAccessors template ms.1) [] d := by
  rw [members]
  cases e.members? with
  | none => exact .of_trouble _ _
  | some ms =>
    exact (Abreast.pure ms).next fun ms =>
      (Companions.self unit k w).writeAccessors template (.refl fun _ _ => rfl)

theorem abreast_writeMethod (w : Workshop) (o : Operation) :
    Abreast unit k d (w.writeMethod o) (w.writeMethod o) [] d := by
  cases hname : o.name.truthy with
  | true => exact (Companions.self unit k w).writeMethod ⟨rfl, rfl, rfl, rfl⟩ hname
  | false =>
    rw [writeMethod, hname]
    exact .of_still (Prints.note _) (Prints.note _)

theorem abreast_write (w : Workshop) (piece : Piece) :
    Abreast unit k d (w.write piece) (w.write piece) [] d := by
  cases piece with
  | doc doc => exact w.abreast_writeDoc doc
  | setters e => exact w.abreast_accessors "setter.dart.j2" e
  | getters e => exact w.abreast_accessors "getter.dart.j2" e
  | method o => exact w.abreast_writeMethod o
  | page kind e =>
    have hpage := (Companions.self unit k w).writePage (d := d) kind (.of_eq e)
    refine hpage.of_eq ?_
    simp [docBlocks]

/-- Whatever is written is the same at every depth, but for as many units in front of
each line that is not empty. -/
theorem write_moved_in (w : Workshop) (piece : Piece) (unit : String) (k : Nat)
    (lines lines' : List String) (notes notes' : List Note) (supply supply' : Supply) :
    let top := (w.write piece).run.run ⟨⟨unit, 0, lines⟩, notes, supply, .ok none⟩
    let below := (w.write piece).run.run ⟨⟨unit, k, lines'⟩, notes', supply', .ok none⟩
    below.1 = top.1 ∧
      (∃ added, top.2.sheet.lines = lines ++ added ∧
        below.2.sheet.lines = lines' ++ added.map fun l =>
          if l = "" then "" else String.join (List.replicate k unit) ++ l) ∧
      (below.1 = .ok () → top.2.sheet.depth = 0 ∧ below.2.sheet.depth = k) := by
  have habreast : Abreast unit k 0 (w.write piece) (w.write piece) [] 0 := w.abreast_write piece
  obtain ⟨r, ls, e, htop, hbelow, hend⟩ := habreast.moved
  rw [Nat.zero_add] at hbelow
  obtain ⟨_, _, htop⟩ := htop lines notes supply
  obtain ⟨_, _, hbelow⟩ := hbelow lines' notes' supply'
  rw [← Sheet.map_indented unit k []] at hbelow
  rw [htop, hbelow]
  refine ⟨rfl, ⟨ls, rfl, rfl⟩, fun hok => ?_⟩
  rw [hend () hok]
  exact ⟨rfl, Nat.zero_add k⟩

/-- A documentation with an empty line, two levels down. -/
theorem write_moved_in_doc :
    let below := (ordering.write (.doc orderFacts.doc)).run.run
      ⟨⟨"\t", 2, ["first"]⟩, [], {}, .ok none⟩
    below.1 = .ok () ∧ below.2.sheet.depth = 2 ∧
      below.2.sheet.lines = ["first", "\t\t///\"\"\"", "\t\tFirst.", "", "\t\t  Second.",
        "\t\t///\"\"\""] := by
  have hprints : Prints "\t" 0 (ordering.write (.doc orderFacts.doc))
      ["///\"\"\"", "First.", "", "  Second.", "///\"\"\""] 0 :=
    (ordering.prints_writeDoc rfl "\t").of_eq (by decide +kernel)
  obtain ⟨_, _, htop⟩ := hprints [] [] {}
  obtain ⟨hresult, ⟨added, hadded, hmoved⟩, hdepth⟩ :=
    write_moved_in ordering (.doc orderFacts.doc) "\t" 2 [] ["first"] [] [] {} {}
  rw [htop] at hresult hadded
  obtain rfl : ["///\"\"\"", "First.", "", "  Second.", "///\"\"\""] = added := hadded
  refine ⟨hresult, (hdepth hresult).2, hmoved.trans ?_⟩
  decide +kernel

end Workshop
end UmlPress.Emit
