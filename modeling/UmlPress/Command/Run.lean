import UmlPress.Command.Choice
import UmlPress.Command.Reading
import UmlPress.Command.Screen
import UmlPress.Command.World
import UmlPress.Model.Document
import UmlPress.Options.File

/-!
# Running a command

A command loads a document, chooses a package of it and generates or previews
its code. What it expects to go wrong is shown as an error, and the exit code
says so; anything else ends the command at once.
-/
namespace UmlPress.Command

/-- What ends a command at once. -/
inductive Halt where
  | markup (f : Console.MarkupFault)
  | source (f : Source.Fault)
  | options (f : Options.LoadFault)
  | trouble (t : Emit.Trouble)
  | misuse (m : Misuse)
  | journal (shown : String) (r : Disk.Refusal)
  /-- A text that the console cannot show. -/
  | console (why : Text.Unencodable)
  | refused (shown : String) (r : Disk.Refusal)

def Halt.message : Halt → String
  | .markup f => f.message
  | .source f => f.message
  | .options f => f.message
  | .trouble t => t.message
  | .misuse m => m.message
  | .journal _ .nullCharacter => Disk.Refusal.nullCharacter.reason
  | .journal _ (.unencodable why) => why.message
  | .journal shown r => r.describe shown
  | .console why =>
    why.message ++ "\n*** You may need to add PYTHONIOENCODING=utf-8 to your environment ***"
  | .refused shown r => r.describe shown

inductive Abort where
  /-- An error that is shown; one that came from further inside is also noted. -/
  | failed (message : String) (fromInside : Bool)
  | halt (h : Halt)

abbrev Running (m : Type → Type) := ExceptT Abort m

def writer : String := "umlgen.codegen.cli_integration"

def failSource : Source.Fault → Abort
  | .undecodable f => .halt (.source (.undecodable f))
  | .longInteger f => .halt (.source (.longInteger f))
  | .badAddress f => .halt (.source (.badAddress f))
  | .unaskable p r => .halt (.source (.unaskable p r))
  | .misuse m => .halt (.misuse m)
  | f => .failed f.message true

def failOptions : Options.LoadFault → Abort
  | .undecodable f => .halt (.options (.undecodable f))
  | .longInteger f => .halt (.options (.longInteger f))
  | .pairLength p l => .halt (.options (.pairLength p l))
  | .unencodable why => .halt (.options (.unencodable why))
  | .longNumber => .halt (.options .longNumber)
  | .unaskable p r => .halt (.options (.unaskable p r))
  | .misuse m => .halt (.misuse m)
  | f => .failed f.message true

def failTrouble : Emit.Trouble → Abort
  | .fault f => .failed f.message true
  | .misuse m => .halt (.misuse m)
  | t => .halt (.trouble t)

section
variable {m : Type → Type} [Monad m] (w : World m)

def orAbort {ε α : Type} (fail : ε → Abort) (r : Except ε α) : Running m α :=
  match r with
  | .ok a => pure a
  | .error e => throw (fail e)

def showLines (s : Shown) : Running m Unit := do
  match s with
  | .ok ls => orAbort (fun why => .halt (.console why)) (← w.print ls)
  | .error f => throw (.halt (.markup f))

def showText (s : String) : Running m Unit := showLines w (shownText s)

def ofDocument (document : Entries) : Running m Snapshot := do
  let s ← orAbort (fun m => .halt (.misuse m)) (Document.toSnapshot document)
  w.noteAll s.notes
  return s

def loadSnapshot (a : Arguments) : Running m Snapshot := do
  let loaded ← orAbort failSource (← w.load a.file a.url)
  showText w s!"📄 Loaded: {loaded.source}"
  ofDocument w loaded.document

/-- The settings that are given on the command line itself. -/
def overrides (a : Arguments) : Entries :=
  (if a.useTabs then [("use_tabs", Json.bool true)] else []) ++
    (a.indentSpaces.map fun n => ("indent_spaces", Json.int n)).toList ++
    (a.namePrefix.map fun s => ("name_prefix", Json.text s)).toList ++
    (if a.noDocs then [("doc_string", Json.bool false)] else [])

def fileEntries (file : Option String) : Running m Entries := do
  match Source.given file with
  | none => return []
  | some name =>
    let path := Path.ofString name
    let entries ← orAbort failOptions (Options.ofFound path (← w.status path))
    w.note (.debug "umlgen.codegen.core.config" s!"Loaded configuration file {path.text}")
    return entries

def showAll : List Shown → Running m Unit
  | [] => pure ()
  | s :: r => do
    showLines w s
    showAll r

def buildOptions (a : Arguments) : Running m Options := do
  let entries ← fileEntries w a.config
  let options ← orAbort failOptions (Options.settle entries (overrides a))
  let found ← match Emit.Workshop.directory? options with
    | some p => w.status p
    | none => pure (.error .missing)
  let warnings ← orAbort failOptions ((Options.Draft.ofOptions options).warnings fun _ => found)
  showAll w (warnings.map fun text => shownText s!"[yellow]⚠️  {text}[/yellow]")
  return options

def choosePackage (s : Snapshot) (request : Option String) : Running m Snapshot := do
  let request := (request.map Json.text).getD .null
  match ← orAbort (fun m => .halt (.misuse m)) (s.chosen request) with
  | .error f => throw (.failed f.message true)
  | .ok none => return s
  | .ok (some spot) =>
    w.noteAll s.notes
    return s.withBase spot

def showReport (r : Emit.Report) : Running m Nat := do
  showLines w (shownGenerated r)
  showLines w (shownFailures r)
  showLines w (shownCounts r)
  return if r.success then 0 else 1

/-- Shows the files that a run would write. -/
def preview (s : Snapshot) (o : Options) (output : String) : Running m Nat := do
  let plan := Emit.generate s o (.ofString output)
  let (report, store) ← (liftM ((plan.run w.memory).run ({} : Memory)) :
    Running m (Except Emit.Trouble Emit.Report × Memory))
  let report ← orAbort failTrouble report
  showAll w ((store.files.filter (·.2 ≠ "")).map shownFile)
  showReport w report

def generate (s : Snapshot) (o : Options) (output : String) : Running m Nat := do
  let path := Path.ofString output
  match ← w.status path with
  | .ok .directory =>
    let report : Except Emit.Trouble Emit.Report ← liftM ((Emit.generate s o path).run w.sink)
    showReport w (← orAbort failTrouble report)
  | .ok (.file _) => throw (missing path)
  | .error r => throw (if r.isAbsent then missing path else .halt (.refused path.text r))
where
  missing (path : Path) : Abort :=
    .failed s!"Output directory does not exist: {path.text}" false

def work (a : Arguments) : Running m Nat := do
  if (Source.given a.file).isNone && (Source.given a.url).isNone then
    throw (.failed "Input source required (file or --url)" false)
  let s ← loadSnapshot w a
  if a.listPackages then
    showLines w (shownPackages s.root)
    return 0
  let options ← buildOptions w a
  let s ← choosePackage w s a.package
  if a.dryRun then preview w s options a.output
  else generate w s options a.output

def showError (message : String) : m (Except Halt Nat) :=
  match shownText s!"[red]✗ Error:[/red] {message}" with
  | .error f => return .error (.markup f)
  | .ok ls => do
    match ← w.print ls with
    | .error why => return .error (.console why)
    | .ok _ => return .ok 1

/-- Runs a command that has been read, and says how it exits. -/
def execute (a : Arguments) : m (Except Halt Nat) := do
  match ← w.openJournal a.verbose a.logFile with
  | .error (shown, r) => return .error (.journal shown r)
  | .ok _ =>
    match ← (work w a).run with
    | .ok code => return .ok code
    | .error (.halt h) => return .error h
    | .error (.failed message fromInside) =>
      if fromInside then w.note (.debug writer "Generation aborted")
      showError w message

/-- How a command line ends. -/
inductive Outcome where
  | exit (code : Nat)
  /-- Help or the version, on standard output. -/
  | told (lines : List String)
  | misused (f : UsageFault)
  | halted (h : Halt)

def run (line : List String) : m Outcome :=
  match Arguments.read line with
  | .error .help => return .told helpLines
  | .error .version => return .told [versionLine]
  | .error (.usage f) => return .misused f
  | .ok a => do
    match ← execute w a with
    | .ok code => return .exit code
    | .error h => return .halted h

end

end UmlPress.Command
