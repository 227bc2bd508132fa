import Std.Time
import UmlPress.Command.Run

/-!
# The program

The command on a real computer: its files, its clock and its console. There is
no network behind it, so an address is never reached.
-/
namespace UmlPress.Main
open Command

/-- Where notes go besides the console, and from which level on they are shown
there. -/
structure Listening where
  file : Option String := none
  level : Nat := consoleLevel false

def osCode? : IO.Error → Option UInt32
  | .alreadyExists _ code _ => some code
  | .noFileOrDirectory _ code _ => some code
  | .inappropriateType _ code _ => some code
  | .invalidArgument _ code _ => some code
  | .permissionDenied _ code _ => some code
  | .otherError code _ => some code
  | .illegalOperation code _ => some code
  | .resourceExhausted _ code _ => some code
  | .unsupportedOperation code _ => some code
  | _ => none

def refusalOf (e : IO.Error) : Disk.Refusal :=
  match (osCode? e).map UInt32.toNat with
  | some 2 => .missing
  | some 13 => .denied
  | some 17 => .alreadyThere
  | some 20 => .notDirectory
  | some 21 => .isDirectory
  | some 36 => .nameTooLong
  | some n => .other n e.toString
  | none => .other 5 e.toString

/-- Holds a text that comes from outside. -/
def taken (s : String) : String := .ofList (Text.hold s.toList)

/-- A held text as it goes outside. -/
def given (s : List Char) : String := .ofList ((Text.codes s).map Char.ofNat)

/-- Does something with a path, if it can be asked about at all. -/
def attempt {α : Type} (name : String) (act : String → IO α) : IO (Except Disk.Refusal α) := do
  match Text.unencodable? name.toList with
  | some why => return .error (.unencodable why)
  | none =>
    if name.contains '\x00' then return .error .nullCharacter
    try return .ok (← act (given name.toList))
    catch e => return .error (refusalOf e)

def status (p : Path) : IO (Except Disk.Refusal Item) :=
  attempt p.text fun name => do
    if ← (← IO.FS.realPath name).isDir then return .directory
    else return .file (.bytes (← IO.FS.readBinFile name).toList)

/-- Writes a file, which is empty first. -/
def write (p : Path) (content : String) : IO (Except Disk.Refusal Unit) := do
  match Text.unencodable? content.toList with
  | none => attempt p.text fun name => IO.FS.writeFile name (given content.toList)
  | some why =>
    return (← attempt p.text fun name => IO.FS.writeFile name "").bind fun _ =>
      .error (.unencodable why)

/-- All files below a directory, by the names on the way to them. -/
partial def filesBelow (directory : String) (way : List String) :
    IO (List (List String × Item)) := do
  let mut found := []
  for entry in ← (← IO.FS.realPath directory).readDir do
    let name := directory ++ "/" ++ entry.fileName
    let way := way ++ [taken entry.fileName]
    if ← entry.path.isDir then
      found := found ++ (← filesBelow name way)
    else
      let bytes ← IO.FS.readBinFile name
      found := found ++ [(way, .file (.bytes bytes.toList))]
  return found

def templates (p : Path) : IO (Except Disk.Refusal (Option Template.Folder)) := do
  match ← status p with
  | .ok .directory =>
    attempt p.text fun name => do return some (.ofItems (← filesBelow name []))
  | .ok (.file _) => return .ok none
  | .error r => return if r.isAbsent then .ok none else .error r

def digits (width n : Nat) : String :=
  let s := toString n
  String.ofList (List.replicate (width - s.length) '0') ++ s

/-- The local time to the millisecond. -/
def stamp : IO String := do
  let now ← Std.Time.PlainDateTime.now
  let date := "-".intercalate
    [digits 4 now.year.toNat, digits 2 now.month.val.toNat, digits 2 now.day.val.toNat]
  let time := ":".intercalate
    [digits 2 now.hour.val.toNat, digits 2 now.minute.val.toNat, digits 2 now.second.val.toNat]
  return date ++ " " ++ time ++ "," ++ digits 3 (now.nanosecond.val.toNat / 1000000)

def appendTo (file text : String) : IO Unit := do
  let handle ← IO.FS.Handle.mk file .append
  handle.putStr text

def openJournal (listening : IO.Ref Listening) (verbose : Bool) (file : Option String) :
    IO (Except (String × Disk.Refusal) Unit) := do
  listening.set { file, level := consoleLevel verbose }
  match file with
  | none => return .ok ()
  | some name => return (← attempt name fun file => appendTo file "").mapError (name, ·)

def note (listening : IO.Ref Listening) (n : Note) : IO Unit := do
  let l ← listening.get
  if l.level ≤ n.level then
    IO.eprintln (given (Note.levelName n.level ++ " " ++ n.text).toList)
  match l.file with
  | none => return ()
  | some name =>
    if journalLevel ≤ n.level then
      let line := (← stamp) ++ " " ++ n.line ++ "\n"
      if (Text.unencodable? line.toList).isNone then
        appendTo (given name.toList) (given line.toList)

/-- Prints a text if bytes can be made of it. -/
def print (s : List Char) : IO (Except Text.Unencodable Unit) := do
  match Text.unencodable? s with
  | some why => return .error why
  | none =>
    IO.print (given s)
    return .ok ()

def world (listening : IO.Ref Listening) : World IO where
  status := status
  templates := templates
  fetch _ := return .noConnection "no network"
  makeDirectory p := attempt p.text fun name => IO.FS.createDir name
  write := write
  openJournal := openJournal listening
  note := note listening
  print ls := print (ls.flatMap (· ++ ['\n']))

end UmlPress.Main

def main (line : List String) : IO UInt32 := do
  let listening ← IO.mkRef {}
  let world := UmlPress.Main.world listening
  match ← UmlPress.Command.run world (line.map UmlPress.Main.taken) with
  | .exit code => return code.toUInt32
  | .told lines =>
    lines.forM fun l => IO.println l
    return 0
  | .misused f =>
    f.lines.forM fun l => IO.eprintln (UmlPress.Main.given l.toList)
    return 2
  | .halted h =>
    IO.eprintln (UmlPress.Main.given h.message.toList)
    return 1
