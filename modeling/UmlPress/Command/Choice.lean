import UmlPress.Text.Blank
import UmlPress.Text.Quoted
import UmlPress.Text.Word

/-!
# Choices of the command line

What can be chosen on the command line, how each choice is spelled, what is kept of
a command line once it has been read, and how the command is used.
-/
namespace UmlPress.Command

inductive Choice where
  | help
  | version
  | url
  | output
  | package
  | config
  | tab
  | indentSpaces
  | namePrefix
  | noDocs
  | dryRun
  | listPackages
  | verbose
  | logFile
  deriving Repr, DecidableEq

namespace Choice

def all : List Choice :=
  [.help, .version, .url, .output, .package, .config, .tab, .indentSpaces, .namePrefix, .noDocs,
   .dryRun, .listPackages, .verbose, .logFile]

def spellings : Choice → List String
  | .help => ["-h", "--help"]
  | .version => ["--version"]
  | .url => ["--url"]
  | .output => ["--output", "-o"]
  | .package => ["--package", "-p"]
  | .config => ["--config"]
  | .tab => ["--tab"]
  | .indentSpaces => ["--indent-spaces"]
  | .namePrefix => ["--prefix"]
  | .noDocs => ["--no-docs"]
  | .dryRun => ["--dry-run"]
  | .listPackages => ["--list-packages"]
  | .verbose => ["--verbose", "-v"]
  | .logFile => ["--log-file"]

def takesValue : Choice → Bool
  | .url => true
  | .output => true
  | .package => true
  | .config => true
  | .indentSpaces => true
  | .namePrefix => true
  | .logFile => true
  | _ => false

/-- All spellings of a choice. -/
def called (c : Choice) : String := "/".intercalate c.spellings

end Choice

/-- Every spelling with what it stands for, in order. -/
def spelled : List (String × Choice) := Choice.all.flatMap fun c => c.spellings.map (·, c)

def choice? (spelling : String) : Option Choice := spelled.lookup spelling

structure Arguments where
  file : Option String := none
  url : Option String := none
  output : String := "."
  package : Option String := none
  config : Option String := none
  useTabs : Bool := false
  indentSpaces : Option Int := none
  namePrefix : Option String := none
  noDocs : Bool := false
  dryRun : Bool := false
  listPackages : Bool := false
  verbose : Bool := false
  logFile : Option String := none
  deriving Repr, DecidableEq

/-- Why a command line cannot be used. -/
inductive UsageFault where
  | ambiguous (given : String) (spellings : List String)
  | noValue (c : Choice)
  | notInteger (c : Choice) (given : String)
  /-- A value for a choice that takes none. -/
  | needlessValue (c : Choice) (given : String)
  | fileBesideUrl
  | urlBesideFile
  | unrecognized (rest : List String)
  deriving Repr, DecidableEq

def UsageFault.message : UsageFault → String
  | .ambiguous given spellings =>
    s!"ambiguous option: {given} could match " ++ ", ".intercalate spellings
  | .noValue c => s!"argument {c.called}: expected one argument"
  | .notInteger c given =>
    s!"argument {c.called}: invalid int value: {String.ofList (Text.quoted given.toList)}"
  | .needlessValue c given =>
    s!"argument {c.called}: ignored explicit argument {String.ofList (Text.quoted given.toList)}"
  | .fileBesideUrl => "argument file: not allowed with argument --url"
  | .urlBesideFile => "argument --url: not allowed with argument file"
  | .unrecognized rest => "unrecognized arguments: " ++ " ".intercalate rest

/-! Integers as they are typed. -/

/-- White space around a number. Of the control characters only those that move
the carriage count. -/
def isMargin (c : Char) : Bool := Text.isBlank c && !Text.within [(0x1c, 0x1f)] c

/-- The value of digits, of which any two may have an underscore between them. -/
def digits? (value count : Nat) : List Char → Option (Nat × Nat)
  | [] => none
  | [c] => (Text.digitValue? c).map fun d => (10 * value + d, count + 1)
  | c :: '_' :: r => (Text.digitValue? c).bind fun d => digits? (10 * value + d) (count + 1) r
  | c :: r => (Text.digitValue? c).bind fun d => digits? (10 * value + d) (count + 1) r

/-- The longest number that is read, in digits. -/
def longest : Nat := 4300

def natural? (s : List Char) : Option Nat :=
  (digits? 0 0 s).bind fun (value, count) => if count ≤ longest then some value else none

def integer? (s : List Char) : Option Int :=
  match Text.trimEndBy isMargin (s.dropWhile isMargin) with
  | '-' :: r => (natural? r).map fun n => -(n : Int)
  | '+' :: r => (natural? r).map Int.ofNat
  | r => (natural? r).map Int.ofNat

def usageLines : List String :=
  ["usage: umlgen [-h] [--version] [--url URL] [--output DIR]",
   "              [--package NAME_OR_ID] [--config FILE] [--tab]",
   "              [--indent-spaces N] [--prefix PREFIX] [--no-docs] [--dry-run]",
   "              [--list-packages] [--verbose] [--log-file FILE]",
   "              [file]"]

def helpLines : List String := usageLines ++
  ["",
   "Generate cloud-function model classes from a UML model",
   "",
   "positional arguments:",
   "  file                  Model file (.mdj) to generate from",
   "",
   "options:",
   "  -h, --help            show this help message and exit",
   "  --version             show program's version number and exit",
   "  --url URL             URL to fetch the model document from",
   "  --output DIR, -o DIR  Directory receiving the generated package (default:",
   "                        current directory)",
   "  --package NAME_OR_ID, -p NAME_OR_ID",
   "                        Package to generate (default: first model of the",
   "                        project)",
   "  --config FILE         JSON configuration file",
   "",
   "style options:",
   "  --tab                 Indent with tabs",
   "  --indent-spaces N     Spaces per indentation level",
   "  --prefix PREFIX       Prefix for generated class and file names",
   "  --no-docs             Don't emit documentation comments",
   "",
   "run options:",
   "  --dry-run             Print generated files instead of writing them",
   "  --list-packages       Show the package tree of the model and exit",
   "  --verbose, -v         Show debug logging",
   "  --log-file FILE       Also log to this file",
   "",
   "Examples:",
   "  umlgen model.mdj -o build",
   "  umlgen model.mdj --package Shop --prefix LC --indent-spaces 2",
   "  umlgen model.mdj --dry-run --no-docs",
   "  umlgen --url https://example.com/model.mdj --list-packages"]

def versionLine : String := "umlgen 0.1.0"

/-- What is written when a command line cannot be used. -/
def UsageFault.lines (f : UsageFault) : List String :=
  usageLines ++ ["umlgen: error: " ++ f.message]

end UmlPress.Command
