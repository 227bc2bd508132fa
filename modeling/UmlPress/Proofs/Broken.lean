import UmlPress.Proofs.Coverage
import UmlPress.Proofs.Plain
import UmlPress.Proofs.Returns

/-!
# Runs with templates of their own

The templates of a directory may be broken in any way. An element whose page cannot be
written is put into the report and the run goes on, as long as the templates that are
asked for can be used at all. A template that cannot be read or is malformed is no fault
of the element: the first page that asks for it puts an end to the run.
-/
namespace UmlPress.Emit

open Template (Folder)

namespace Workshop
variable {w : Workshop} {folder? : Option Folder}

theorem isOther_of_pageOf? {e : Element} {content : Except Trouble String}
    (h : w.pageOf? folder? e = some content) : e.isOther = false := by
  obtain ⟨facts, shape, owned⟩ := e
  cases shape with
  | other type => cases h
  | _ => rfl

end Workshop

/-- What is found at one directory can be told beforehand. -/
theorem Sink.ofMemory_eq {disk : Disk} {q : Path} {found : Found}
    (h : Folder.ofDisk disk q = found) :
    Sink.ofMemory disk = Sink.memory
      (fun p => pure (if p = q then found else Folder.ofDisk disk p)) fun _ => pure () := by
  unfold Sink.ofMemory
  congr
  funext p
  split
  · rename_i hp
    rw [hp, h]
  · rfl

def kiosk : Workshop where
  snapshot :=
    let shop := Element.node ⟨.text "s", .text "shop", .text ""⟩ .package
      [.node ⟨.text "e", .text "Size", .text ""⟩ (.enumeration [.text "S"]) [],
       sampleClass "c" "cart"]
    { root := shop, edges := [], base := Snapshot.rootSpot shop }
  options := { templateDir := some "tpl" }

theorem wellFormed_kiosk : kiosk.snapshot.WellFormed where
  typed := by decide +kernel
  targets := by decide +kernel
  hashable := by
    unfold Snapshot.Hashable
    decide +kernel
  ownersDiffer := by
    unfold Snapshot.OwnersDiffer
    decide +kernel
  base := ⟨_, Snapshot.rootEntry_mem_index kiosk.snapshot, rfl⟩

def kioskDisk (text : String) : Disk :=
  Disk.fresh.provide ⟨.none, ["tpl", "enum_file_header.dart.j2"]⟩ (.file (.text text))

theorem ofDisk_kioskDisk (text : String) : Folder.ofDisk (kioskDisk text) (.ofString "tpl") =
    .ok (some [(["enum_file_header.dart.j2"], .ofContent (.text text))]) := by
  have hp : Path.ofString "tpl" = ⟨.none, ["tpl"]⟩ := Path.ofString_plain (by decide)
  have hr : (kioskDisk text).resolve (.ofString "tpl") = .ok ["", "", "tpl"] := by
    rw [hp, Disk.resolve_eq_ok]
    exact ⟨by decide +kernel, by decide +kernel,
      (by decide +kernel : Text.nameSize (Path.text ⟨.none, ["tpl"]⟩).toList ≤ 4095), rfl⟩
  unfold Folder.ofDisk Disk.isDirectory Disk.status
  rw [hr]
  rfl

namespace Workshop

end Workshop
end UmlPress.Emit
