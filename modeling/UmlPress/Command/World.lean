import UmlPress.Emit.Sink
import UmlPress.Source.Load

/-!
# The world of a command

What a command asks of the computer it runs on. A machine is a world that is known
in full: a file system, the reply to every request, the file that notes go to, and
what has been printed.
-/
namespace UmlPress.Command

structure World (m : Type → Type) where
  /-- What is found at a path. -/
  status : Path → m (Except Disk.Refusal Item)
  /-- The templates below a directory, if it is one. -/
  templates : Path → m Emit.Found
  fetch : String → m Source.Reply
  makeDirectory : Path → m (Except Disk.Refusal Unit)
  write : Path → String → m (Except Disk.Refusal Unit)
  /-- Starts to keep notes, showing all of them if asked to, and in a file if one
  is named. A refusal comes with the name of that file as it is shown. -/
  openJournal : Bool → Option String → m (Except (String × Disk.Refusal) Unit)
  note : Note → m Unit
  /-- Writes lines to the console, which may not be able to show them. -/
  print : List (List Char) → m (Except Text.Unencodable Unit)

namespace World
variable {m : Type → Type} [Monad m]

/-- The file system of a world as a store for plans. -/
def sink (w : World m) : Emit.Sink m := .ofFiles w.makeDirectory w.write w.templates w.note

/-- A store in memory for plans, in a world. -/
def memory (w : World m) : Emit.Sink (StateT Memory m) := .memory w.templates w.note

def noteAll (w : World m) : List Note → m Unit
  | [] => pure ()
  | n :: r => do
    w.note n
    w.noteAll r

/-- Loads a document. An address is only asked if it can be. -/
def load (w : World m) (file address : Option String) :
    m (Except Source.Fault Source.Loaded) := do
  let found ← match Source.given file with
    | some name => w.status (.ofString name)
    | none => pure (.error .missing)
  let reply ← match Source.given address with
    | some name =>
      if (Source.checkAddress name).run.1.isOk then w.fetch name else pure .timeout
    | none => pure .timeout
  let (r, notes) := (Source.load file address (fun _ => found) reply).run
  w.noteAll notes
  return r

end World

structure Machine where
  disk : Disk := .fresh
  reply : Source.Reply := .noConnection ""
  /-- The names on the way to the file of notes. -/
  journal : Option (List String) := none
  printed : List (List Char) := []
  /-- The time, which stands still. -/
  stamp : String := "1970-01-01 00:00:00,000"

namespace Machine

/-- The name of a file as it is shown, from the starting directory where it
lies below that. -/
def shownName (m : Machine) (names : List String) : String :=
  if m.disk.here.isPrefixOf names then "/".intercalate (names.drop m.disk.here.length)
  else "/" ++ "/".intercalate names

/-- Opens a file of notes in place of the one before. -/
def openJournal (m : Machine) (file : Option String) :
    Except (String × Disk.Refusal) Unit × Machine :=
  match file with
  | none => (.ok (), { m with journal := none })
  | some name =>
    let names := m.disk.lexical (.ofString name)
    let opened : Except Disk.Refusal Disk :=
      match Text.unspellable? name.toList with
      | some why => .error (.unencodable why)
      | none => if name.contains '\x00' then .error .nullCharacter else m.disk.append names ""
    match opened with
    | .ok disk => (.ok (), { m with disk, journal := some names })
    | .error r => (.error (m.shownName names, r), { m with journal := none })

def note (m : Machine) (n : Note) : Machine :=
  match m.journal with
  | none => m
  | some names =>
    if n.level < journalLevel then m
    else match m.disk.append names (m.stamp ++ " " ++ n.line ++ "\n") with
      | .ok disk => { m with disk }
      | .error _ => m

/-- Changes the file system, if it does not refuse. -/
def onDisk (step : Disk → Except Disk.Refusal Disk) : StateM Machine (Except Disk.Refusal Unit) :=
  modifyGet fun m => match step m.disk with
    | .ok disk => (.ok (), { m with disk })
    | .error r => (.error r, m)

/-- Prints lines as one text: all of them, or none if no bytes can be made of it. -/
def print (m : Machine) (ls : List (List Char)) : Except Text.Unencodable Unit × Machine :=
  match Text.unencodable? (ls.flatMap (· ++ ['\n'])) with
  | some why => (.error why, m)
  | none => (.ok (), { m with printed := m.printed ++ ls })

def world : World (StateM Machine) where
  status p := do return (← get).disk.status p
  templates p := do return Template.Folder.ofDisk (← get).disk p
  fetch _ := do return (← get).reply
  makeDirectory p := onDisk (·.makeDirectory p)
  write p content := modifyGet fun m =>
    let (r, disk) := m.disk.write p content
    (r, { m with disk })
  openJournal _ file := modifyGet fun m => m.openJournal file
  note n := modify (·.note n)
  print ls := modifyGet fun m => m.print ls

end Machine
end UmlPress.Command
