import UmlPress.Emit.Report
import UmlPress.Emit.Walk
import UmlPress.Keyed

/-!
# Where plans are carried out

A plan runs on a store in memory or on a file system. A store in memory knows
directories and files by their paths alone, so that nothing has to exist above
them. It keeps its directories twice, in order for people to read and on their own
for looking up, and it may refuse files of certain names. A file system keeps notes
of what it made; a store in memory keeps none.
-/
namespace UmlPress

structure Memory where
  /-- In the order in which they were made. -/
  directories : List Path := []
  /-- In the order in which they were first written. -/
  files : Keyed Path String := []
  /-- The directories that are looked up. -/
  known : List Path := []
  refused : List String := []

namespace Memory

def read? (m : Memory) (p : Path) : Option String := Keyed.get? p m.files

def hasDirectory (m : Memory) (p : Path) : Bool := p ∈ m.known

def hasFile (m : Memory) (p : Path) : Bool := (m.read? p).isSome

def makeDirectory (m : Memory) (p : Path) : Except Emit.Fault Memory :=
  if m.hasDirectory p || m.hasFile p then .error (.directory p.text "path already exists")
  else .ok { m with known := p :: m.known, directories := m.directories ++ [p] }

/-- Writes a file; `shown` is the path as the caller wrote it. -/
def writeShown (m : Memory) (p : Path) (shown content : String) : Except Emit.Fault Memory :=
  if p.name ∈ m.refused then .error (.file shown "disk full")
  else if m.hasDirectory p then .error (.file p.text "path is a directory")
  else .ok { m with files := Keyed.put p content m.files }

def write (m : Memory) (p : Path) (content : String) : Except Emit.Fault Memory :=
  m.writeShown p p.text content

end Memory
end UmlPress

namespace UmlPress.Emit

def sinkWriter : String := "umlgen.codegen.core.sink"

def madeNote (p : Path) : Note := .debug sinkWriter s!"Created directory {p.text}"

def wroteNote (p : Path) (content : String) : Note :=
  .debug sinkWriter s!"Wrote {p.text} ({(Text.codes content.toList).length} bytes)"

def directoryTrouble (p : Path) : Disk.Refusal → Trouble
  | .alreadyThere => .fault (.directory p.text "path already exists")
  | r => .ofRefusal (.directory p.text) p.text r

def fileTrouble (p : Path) (r : Disk.Refusal) : Trouble := .ofRefusal (.file p.text) p.text r

namespace Sink
variable {m : Type → Type}

/-- A file system as a sink, given how it answers. -/
def ofFiles [Monad m] (makeDirectory : Path → m (Except Disk.Refusal Unit))
    (write : Path → String → m (Except Disk.Refusal Unit)) (look : Path → m Found)
    (note : Note → m Unit) : Sink m where
  makeDirectory p := do
    match ← makeDirectory p with
    | .error r => return .error (directoryTrouble p r)
    | .ok _ =>
      note (madeNote p)
      return .ok ()
  write p content := do
    match ← write p content with
    | .error r => return .error (fileTrouble p r)
    | .ok _ =>
      note (wroteNote p content)
      return .ok ()
  look := look
  note := note

/-- Takes the next state of a store where there is one. -/
def advance {σ ε : Type} [Monad m] (step : σ → Except ε σ) : StateT σ m (Except ε Unit) :=
  modifyGet fun s => match step s with
    | .ok next => (.ok (), next)
    | .error f => (.error f, s)

/-- A store in memory as a sink, while notes go elsewhere. Templates are looked for
elsewhere, too. -/
def memory [Monad m] (look : Path → m Found) (note : Note → m Unit) : Sink (StateT Memory m) where
  makeDirectory p := advance fun s => (s.makeDirectory p).mapError .fault
  write p content := advance fun s => (s.write p content).mapError .fault
  look p := liftM (look p)
  note n := liftM (note n)

/-- A store in memory beside a file system that templates are looked for on. -/
def ofMemory (disk : Disk) : Sink (StateM Memory) :=
  memory (fun p => pure (Template.Folder.ofDisk disk p)) fun _ => pure ()

def ofDisk : Sink (StateM Disk) :=
  ofFiles (fun p => advance (·.makeDirectory p))
    (fun p content => modifyGet fun d => d.write p content)
    (fun p => do return Template.Folder.ofDisk (← get) p) fun _ => pure ()

end Sink

end UmlPress.Emit
