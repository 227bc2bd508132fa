import UmlPress.Console.Outline
import UmlPress.Console.Panel
import UmlPress.Console.Table
import UmlPress.Emit.Report
import UmlPress.Emit.Sink
import UmlPress.Model.Element

/-!
# What a command shows

Reports, previews and outlines of packages as lines of the console.
-/
namespace UmlPress.Command

/-- The columns of the console. -/
def columns : Nat := 80

/-- Lines of the console, unless a text has a tag too many in it. -/
abbrev Shown := Except Console.MarkupFault (List (List Char))

def shownText (s : String) : Shown := Console.textLines columns s

def shownGenerated (r : Emit.Report) : Shown :=
  if r.generated.isEmpty then .ok []
  else Console.Table.render columns "✅ Generated Files" ["Path"]
    (r.generated.map fun p => [p.text])

def shownFailures (r : Emit.Report) : Shown :=
  if r.failures.isEmpty then .ok []
  else Console.Table.render columns "✗ Failures" ["Element", "Error"]
    (r.failures.map fun f => [f.place, f.fault.message])

def shownCounts (r : Emit.Report) : Shown :=
  shownText (s!"[bold]{r.generated.length}[/bold] file(s), " ++
    s!"[bold]{r.directories.length}[/bold] director(ies), " ++
    s!"[bold]{r.failures.length}[/bold] failure(s)")

/-- A file of a store in memory. -/
def shownFile (file : Path × String) : Shown :=
  Console.Panel.render columns s!"📄 {file.1.text}" file.2

def icon? : Shape → Option String
  | .package => some "📦"
  | .classifier false _ _ => some "🔷"
  | .classifier true _ _ => some "🔶"
  | .enumeration _ => some "🔢"
  | .other _ => none
  | .unsupported => none

mutual

/-- The outline of an element, if it has a sign to go by. Only packages show
what they own. -/
def outline? : Element → Option Console.Outline
  | .node facts shape owned =>
    match icon? shape with
    | none => none
    | some icon =>
      let label := s!"{icon} {facts.name.display} [dim]({facts.id.display})[/dim]"
      match shape with
      | .package => some (.node label (outlines owned))
      | _ => some (.node label [])

def outlines : List Element → List Console.Outline
  | [] => []
  | e :: r => (outline? e).toList ++ outlines r

end

def shownPackages (root : Element) : Shown :=
  let name := (root.name.orElse (.text "(unnamed)")).display
  Console.Outline.render columns (.node s!"📦 [bold]{name}[/bold]" (outlines root.children))

end UmlPress.Command
