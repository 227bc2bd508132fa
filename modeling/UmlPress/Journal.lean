/-!
# Journal

A program keeps notes of what it does. A note has a level, the name of the
part that wrote it and a text; its line in a journal file shows all three.
-/
namespace UmlPress

structure Note where
  level : Nat
  writer : String
  text : String
  deriving Repr, DecidableEq

namespace Note

def debug (writer text : String) : Note := ⟨10, writer, text⟩
def info (writer text : String) : Note := ⟨20, writer, text⟩
def warning (writer text : String) : Note := ⟨30, writer, text⟩
def error (writer text : String) : Note := ⟨40, writer, text⟩

def levelName (level : Nat) : String :=
  match level with
  | 0 => "NOTSET"
  | 10 => "DEBUG"
  | 20 => "INFO"
  | 30 => "WARNING"
  | 40 => "ERROR"
  | 50 => "CRITICAL"
  | n => s!"Level {n}"

def line (n : Note) : String := s!"{levelName n.level} {n.writer}: {n.text}"

end Note

/-- The name that all writers of notes have in common. -/
def program : String := "umlgen"

/-- The full name of a writer. -/
def writerNamed (name : String) : String :=
  if name = "" then program
  else if name = program || name.startsWith (program ++ ".") then name
  else program ++ "." ++ name

/-- Notes below this level are dropped. -/
def journalLevel : Nat := 10

/-- Notes from this level on are shown on the console. -/
def consoleLevel (verbose : Bool) : Nat := if verbose then 10 else 30

/-- A computation that keeps notes and may fail; the notes outlive a failure. -/
abbrev Noted (ε α : Type) := ExceptT ε (StateM (List Note)) α

namespace Noted
variable {ε α : Type}

def note (n : Note) : Noted ε Unit := modify (· ++ [n])

def run (x : Noted ε α) : Except ε α × List Note := StateT.run (ExceptT.run x) []

end Noted
end UmlPress
