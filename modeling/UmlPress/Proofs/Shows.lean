import UmlPress.Command.Screen
import UmlPress.Proofs.Conduct
import UmlPress.Proofs.Drawn
import UmlPress.Proofs.Legible

/-!
# What a command can show

Everything that a command shows is put together from tags of its own and from texts that it
has been given. It can be shown if no bracket stands in those, and no half stands in what is
shown if none stands in those.
-/
namespace UmlPress.Command
open Console
open Text (Encodable)
variable {given : List String} {s : String}

/-- It can be shown, unless a bracket stands in one of the given texts, and no half is shown
unless it stands in one of them. -/
structure Shows (given : List String) (x : Shown) : Prop where
  fault : ∀ f, x = .error f → ∃ t ∈ given, '[' ∈ t.toList
  whole : ∀ ls, x = .ok ls → (∀ t ∈ given, Encodable t.toList) → ∀ l ∈ ls, Encodable l

theorem shows_of {x : Shown} (h : (∀ t ∈ given, '[' ∉ t.toList) → ∃ ls, x = .ok ls)
    (hwhole : ∀ ls, x = .ok ls → (∀ t ∈ given, Encodable t.toList) → ∀ l ∈ ls, Encodable l) :
    Shows given x := by
  refine ⟨fun f hf => ?_, hwhole⟩
  by_contra hnone
  obtain ⟨ls, hls⟩ := h fun t ht hmem => hnone ⟨t, ht, hmem⟩
  rw [hls] at hf
  cases hf

theorem shows_nil : Shows given (.ok []) :=
  ⟨nofun, by rintro _ ⟨⟩ -; exact List.forall_mem_nil _⟩

/-- A text with tags of its own only, unless there are brackets in the given texts, and with
no half but theirs. -/
structure Readable (given : List String) (s : String) : Prop where
  tagged : (∀ t ∈ given, '[' ∉ t.toList) → Tagged s.toList
  whole : Whole given s

namespace Readable

theorem of_stems (h : Stems given s) : Readable given s :=
  ⟨fun hgiven => .plain (h.not_mem (by decide) hgiven), h.whole⟩

theorem of_unsigned (h : IsUnsigned s) : Readable given s := of_stems (.of_unsigned h)

theorem cast {t : String} (h : Readable given t) (heq : t.toList = s.toList) :
    Readable given s := String.toList_inj.1 heq ▸ h

/-- A text between two others, with a tag of its own around it. -/
theorem around (before name : String) {inside after : String} (hbefore : Stems given before)
    (hlast : before.toList.getLast? ≠ some '\\') (hname : name.toList ∈ tagNames)
    (hinside : Stems given inside) (hafter : Readable given after) :
    Readable given (before ++ "[" ++ name ++ "]" ++ inside ++ "[/" ++ name ++ "]" ++ after) where
  tagged hgiven := by
    have h := Tagged.tag (hbefore.not_mem (by decide) hgiven) hlast hname
      (hinside.not_mem (by decide) hgiven) (hafter.tagged hgiven)
    simpa [String.toList_append] using h
  whole := by
    have hplain : Whole given name :=
      .of_encodable ((by decide : ∀ n ∈ tagNames, Encodable n) _ hname)
    have hopening : Whole given "[" := .of_encodable (by decide)
    have hclosing : Whole given "[/" := .of_encodable (by decide)
    have hend : Whole given "]" := .of_encodable (by decide)
    have hfirst := ((hbefore.whole.append hopening).append hplain).append hend
    have hsecond := (((hfirst.append hinside.whole).append hclosing).append hplain).append hend
    exact hsecond.append hafter.whole

theorem shows (h : Readable given s) : Shows given (shownText s) :=
  shows_of (fun hgiven => exists_textLines (h.tagged hgiven))
    fun _ hls hgiven => encodable_of_textLines hls (h.whole hgiven)

end Readable

theorem shows_text (h : Stems given s) : Shows given (shownText s) := (Readable.of_stems h).shows

theorem shows_error (h : Stems given s) :
    Shows given (shownText s!"[red]✗ Error:[/red] {s}") := by
  have hafter := Readable.of_stems (Stems.append (s := " ") (.of_unsigned (by decide)) h)
  have h := Readable.around "" "red" .empty (by decide) (by decide)
    (.of_unsigned (by decide) : Stems given "✗ Error:") hafter
  exact (h.cast (by simp [toString])).shows

theorem shows_warning (h : Stems given s) :
    Shows given (shownText s!"[yellow]⚠️  {s}[/yellow]") := by
  have hinside : Stems given ("⚠️  " ++ s) := .append (.of_unsigned (by decide)) h
  have h := Readable.around "" "yellow" .empty (by decide) (by decide) hinside
    (.of_unsigned (by decide) : Readable given "")
  exact (h.cast (by simp [toString])).shows

/-! Reports. -/

/-- A table under a title of its own. -/
theorem shows_table {title : String} {head : List String} {rows : List (List String)}
    (htitle : IsUnsigned title) (hhead : ∀ s ∈ head, IsUnsigned s)
    (hrows : ∀ row ∈ rows, ∀ s ∈ row, Stems given s) :
    Shows given (Table.render columns title head rows) := by
  refine shows_of (fun hgiven => Table.exists_render fun row hrow s hs =>
    (Readable.of_stems (hrows row hrow s hs)).tagged hgiven) fun _ hls hgiven => ?_
  have hplain {s : String} (h : IsUnsigned s) : Encodable s.toList :=
    (Stems.of_unsigned h).whole hgiven
  exact Table.encodable_of_render hls (hplain htitle) (fun s hs => hplain (hhead s hs))
    fun row hrow s hs => (hrows row hrow s hs).whole hgiven

theorem shows_generated {r : Emit.Report} (h : r.Stems given) : Shows given (shownGenerated r) := by
  unfold shownGenerated
  split
  · exact shows_nil
  · refine shows_table (by decide) (by decide) (List.forall_mem_map.2 fun p hp => ?_)
    exact List.forall_mem_singleton.2 (Path.stems_text (h.generated p hp))

theorem shows_failures {r : Emit.Report} (h : r.Stems given) : Shows given (shownFailures r) := by
  unfold shownFailures
  split
  · exact shows_nil
  · refine shows_table (by decide) (by decide) (List.forall_mem_map.2 fun f hf => ?_)
    obtain ⟨hplace, hfault⟩ := h.failures f hf
    exact List.forall_mem_cons.2 ⟨hplace, List.forall_mem_singleton.2 hfault⟩

theorem shows_counts (r : Emit.Report) : Shows given (shownCounts r) := by
  have hbold : "bold".toList ∈ tagNames := by decide
  have hthird := Readable.around " director(ies), " "bold" (.of_unsigned (by decide)) (by decide)
    hbold (.number r.failures.length) (.of_unsigned (by decide) : Readable given " failure(s)")
  have hsecond := Readable.around " file(s), " "bold" (.of_unsigned (by decide)) (by decide)
    hbold (.number r.directories.length) hthird
  have hfirst := Readable.around "" "bold" .empty (by decide) hbold (.number r.generated.length)
    hsecond
  exact (hfirst.cast (by simp [toString])).shows

theorem shows_file {file : Path × String} (h : file.1.Stems given) (hcontent : Whole given file.2) :
    Shows given (shownFile file) := by
  have htitle : Stems given s!"📄 {file.1.text}" := by
    have h := Stems.append (s := "📄 ") (.of_unsigned (by decide)) (Path.stems_text h)
    simpa [toString] using h
  exact shows_of (fun hgiven => Panel.exists_render ((Readable.of_stems htitle).tagged hgiven))
    fun _ hls hgiven => Panel.encodable_of_render hls (htitle.whole hgiven) (hcontent hgiven)

/-! Packages. -/

theorem outlines_eq (es : List Element) :
    outlines es = es.flatMap fun e => (outline? e).toList := by
  induction es with
  | nil => rfl
  | cons e r ih => rw [outlines, ih, List.flatMap_cons]

theorem stems_icon {shape : Shape} {icon : String} (h : icon? shape = some icon) :
    Stems given icon := by
  unfold icon? at h
  split at h <;> cases h <;> exact .of_unsigned (by decide)

/-- The label of an element with its id behind its name. -/
theorem readable_label {icon name id : String} (hicon : Stems given icon)
    (hname : Stems given name) (hid : Stems given id) :
    Readable given s!"{icon} {name} [dim]({id})[/dim]" := by
  have hspace : Stems given " " := .of_unsigned (by decide)
  have hinside := ((Stems.of_unsigned (by decide) : Stems given "(").append hid).append
    (.of_unsigned (by decide) : Stems given ")")
  have h := Readable.around _ "dim" (((hicon.append hspace).append hname).append hspace)
    (by rw [String.toList_append, List.getLast?_append]; simp) (by decide) hinside
    (.of_unsigned (by decide) : Readable given "")
  exact h.cast (by simp [toString])

inductive ReadableOutline (given : List String) : Outline → Prop
  | node {label : String} {children : List Outline} : Readable given label →
    (∀ o ∈ children, ReadableOutline given o) → ReadableOutline given (.node label children)

theorem ReadableOutline.isTagged {o : Outline} (h : ReadableOutline given o)
    (hgiven : ∀ t ∈ given, '[' ∉ t.toList) : o.IsTagged := by
  induction h with
  | node hlabel _ ih => exact .node (hlabel.tagged hgiven) ih

theorem ReadableOutline.isClear {o : Outline} (h : ReadableOutline given o)
    (hgiven : ∀ t ∈ given, Encodable t.toList) : o.IsClear := by
  induction h with
  | node hlabel _ ih => exact .node (hlabel.whole hgiven) ih

theorem readable_outline {e : Element} (he : e.Spoken (Stems given) (Whole given)) :
    ∀ o ∈ outline? e, ReadableOutline given o := by
  induction e with
  | node facts shape owned ih =>
    intro o ho
    rw [outline?] at ho
    cases hicon : icon? shape with
    | none => simp [hicon] at ho
    | some icon =>
      have hlabel := readable_label (stems_icon hicon) he.name.display he.id.display
      rw [hicon] at ho
      dsimp only at ho
      split at ho
      · cases ho
        refine .node hlabel ?_
        rw [outlines_eq]
        intro o ho
        obtain ⟨e, hmem, ho⟩ := List.mem_flatMap.1 ho
        exact ih e hmem (he.owned e hmem) o (Option.mem_toList.1 ho)
      · cases ho
        exact .node hlabel nofun

theorem shows_packages {root : Element} (h : root.Spoken (Stems given) (Whole given)) :
    Shows given (shownPackages root) := by
  let name := (root.name.orElse (.text "(unnamed)")).display
  have houtline : ReadableOutline given (.node s!"📦 [bold]{name}[/bold]"
      (outlines root.children)) := by
    refine .node ?_ ?_
    · have hname : Stems given name := by
        unfold name Json.orElse
        split
        · exact h.name.display
        · exact .of_unsigned (by decide)
      have h := Readable.around "📦 " "bold" (.of_unsigned (by decide))
        (by decide) (by decide) hname (.of_unsigned (by decide) : Readable given "")
      exact h.cast (by simp [toString])
    · rw [outlines_eq]
      intro o ho
      obtain ⟨e, hmem, ho⟩ := List.mem_flatMap.1 ho
      have hchildren : ∀ e ∈ root.children, e.Spoken (Stems given) (Whole given) := by
        unfold Element.children
        split
        · exact h.owned
        · exact List.forall_mem_nil _
      exact readable_outline (hchildren e hmem) o (Option.mem_toList.1 ho)
  exact shows_of (fun hgiven => Outline.exists_render (houtline.isTagged hgiven))
    fun _ hls hgiven => Outline.encodable_of_render hls (houtline.isClear hgiven)

end UmlPress.Command
