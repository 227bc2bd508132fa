import UmlPress.Binary64
import UmlPress.Command.Choice
import UmlPress.Command.Reading
import UmlPress.Command.Run
import UmlPress.Command.Screen
import UmlPress.Command.World
import UmlPress.Console.Action
import UmlPress.Console.Cells
import UmlPress.Console.Listing
import UmlPress.Console.Markup
import UmlPress.Console.Outline
import UmlPress.Console.Panel
import UmlPress.Console.Style
import UmlPress.Console.Table
import UmlPress.Console.WidthTable
import UmlPress.Console.Wrap
import UmlPress.Emit.Page
import UmlPress.Emit.Plan
import UmlPress.Emit.Report
import UmlPress.Emit.Sink
import UmlPress.Emit.Supply
import UmlPress.Emit.Walk
import UmlPress.Journal
import UmlPress.Json.Basic
import UmlPress.Json.Reader
import UmlPress.Json.Writer
import UmlPress.Keyed
import UmlPress.Main
import UmlPress.Misuse
import UmlPress.Model.Document
import UmlPress.Model.Element
import UmlPress.Model.Snapshot
import UmlPress.Options.Basic
import UmlPress.Options.Draft
import UmlPress.Options.File
import UmlPress.Options.Layers
import UmlPress.Path
import UmlPress.Proofs.Abreast
import UmlPress.Proofs.Account
import UmlPress.Proofs.Adjusted
import UmlPress.Proofs.Alike
import UmlPress.Proofs.Ancestry
import UmlPress.Proofs.Broken
import UmlPress.Proofs.Calls
import UmlPress.Proofs.Capitals
import UmlPress.Proofs.Checked
import UmlPress.Proofs.Chosen
import UmlPress.Proofs.Clashes
import UmlPress.Proofs.ClassPage
import UmlPress.Proofs.Companions
import UmlPress.Proofs.Complete
import UmlPress.Proofs.Conduct
import UmlPress.Proofs.Conversion
import UmlPress.Proofs.Course
import UmlPress.Proofs.Coverage
import UmlPress.Proofs.Cuts
import UmlPress.Proofs.Depths
import UmlPress.Proofs.Directories
import UmlPress.Proofs.Drawn
import UmlPress.Proofs.DryRun
import UmlPress.Proofs.Encoding
import UmlPress.Proofs.Ensures
import UmlPress.Proofs.EnumPage
import UmlPress.Proofs.Enumeration
import UmlPress.Proofs.Exit
import UmlPress.Proofs.Fallible
import UmlPress.Proofs.Flawless
import UmlPress.Proofs.Formed
import UmlPress.Proofs.Fresh
import UmlPress.Proofs.Granted
import UmlPress.Proofs.Identity
import UmlPress.Proofs.Indented
import UmlPress.Proofs.Index
import UmlPress.Proofs.Inside
import UmlPress.Proofs.Keys
import UmlPress.Proofs.Layout
import UmlPress.Proofs.Legible
import UmlPress.Proofs.Lineage
import UmlPress.Proofs.Lines
import UmlPress.Proofs.Loading
import UmlPress.Proofs.LongIntegers
import UmlPress.Proofs.Lost
import UmlPress.Proofs.Mirror
import UmlPress.Proofs.Numerals
import UmlPress.Proofs.Occurrences
import UmlPress.Proofs.Omitted
import UmlPress.Proofs.Outline
import UmlPress.Proofs.Overlay
import UmlPress.Proofs.Owners
import UmlPress.Proofs.Pages
import UmlPress.Proofs.Parts
import UmlPress.Proofs.Paths
import UmlPress.Proofs.Plain
import UmlPress.Proofs.Precedence
import UmlPress.Proofs.Preorder
import UmlPress.Proofs.Printing
import UmlPress.Proofs.Proper
import UmlPress.Proofs.ReadBack
import UmlPress.Proofs.ReadNumber
import UmlPress.Proofs.ReadText
import UmlPress.Proofs.References
import UmlPress.Proofs.Reordered
import UmlPress.Proofs.Requests
import UmlPress.Proofs.Rerun
import UmlPress.Proofs.Returns
import UmlPress.Proofs.Rounding
import UmlPress.Proofs.Saved
import UmlPress.Proofs.Serves
import UmlPress.Proofs.Settling
import UmlPress.Proofs.Shadowing
import UmlPress.Proofs.Shortest
import UmlPress.Proofs.Shows
import UmlPress.Proofs.Siblings
import UmlPress.Proofs.Silent
import UmlPress.Proofs.Snippets
import UmlPress.Proofs.Steady
import UmlPress.Proofs.Stems
import UmlPress.Proofs.Strict
import UmlPress.Proofs.Struck
import UmlPress.Proofs.Tour
import UmlPress.Proofs.Unread
import UmlPress.Proofs.WellFormed
import UmlPress.Proofs.Whereabouts
import UmlPress.Proofs.Writes
import UmlPress.Sheet
import UmlPress.Source.Address
import UmlPress.Source.Body
import UmlPress.Source.Load
import UmlPress.Store.Disk
import UmlPress.Template.Access
import UmlPress.Template.Evaluate
import UmlPress.Template.Fault
import UmlPress.Template.Filters
import UmlPress.Template.Fold
import UmlPress.Template.Members
import UmlPress.Template.Mention
import UmlPress.Template.Operators
import UmlPress.Template.Parse
import UmlPress.Template.Render
import UmlPress.Template.Scan
import UmlPress.Template.Shelf
import UmlPress.Template.Token
import UmlPress.Template.Tree
import UmlPress.Template.Value
import UmlPress.Text.Blank
import UmlPress.Text.Case
import UmlPress.Text.CaseTable
import UmlPress.Text.CodePage
import UmlPress.Text.Garble
import UmlPress.Text.Half
import UmlPress.Text.Identifier
import UmlPress.Text.Likeness
import UmlPress.Text.Named
import UmlPress.Text.Quoted
import UmlPress.Text.Sign
import UmlPress.Text.Utf8
import UmlPress.Text.Word
