import UmlPress.Command.Choice

/-!
# Reading a command line

An argument that starts with a dash is a choice, and long spellings may be cut
short as long as only one is meant. A value follows its choice or is attached
to it, by an equals sign or, behind a single letter, by nothing. Single letters
may share one dash. Behind two dashes alone all is taken as it stands.
-/
namespace UmlPress.Command

inductive Piece where
  | word (s : String)
  | choice (c : Choice) (short : Bool) (attached : Option (List Char))
  /-- Something that looks like a choice and is none. -/
  | unknown (s : String)
  | separator
  deriving Repr, DecidableEq

namespace Piece

/-- What stands before and behind the first equals sign. -/
def atEquals (s : List Char) : List Char × Option (List Char) :=
  match s.dropWhile (· ≠ '=') with
  | [] => (s, none)
  | _ :: r => (s.takeWhile (· ≠ '='), some r)

def isShort (spelling : List Char) : Bool := spelling.getD 1 '-' ≠ '-'

def allDigits (s : List Char) : Bool := s.all fun c => (Text.digitValue? c).isSome

/-- A negative number, with or without decimals, is no choice. -/
def isNegativeNumber (s : List Char) : Bool :=
  match (if s.getLast? = some '\n' then s.dropLast else s) with
  | '-' :: r =>
    let whole := r.takeWhile (· ≠ '.')
    match r.dropWhile (· ≠ '.') with
    | [] => !whole.isEmpty && allDigits whole
    | _ :: decimals => !decimals.isEmpty && allDigits whole && allDigits decimals
  | _ => false

/-- The spellings that an argument may stand for, when it is none itself. -/
def candidates (s : List Char) : List (String × Choice × Option (List Char)) :=
  match s with
  | '-' :: '-' :: _ =>
    let (front, value) := atEquals s
    (spelled.filter fun e => front.isPrefixOf e.1.toList).map fun e =>
      (e.1, e.2, value)
  | _ =>
    (spelled.filter fun e => e.1.toList = s.take 2).map fun e =>
      (e.1, e.2, some (s.drop 2))

def ofUnspelled (s : List Char) : Except UsageFault Piece :=
  let whole := String.ofList s
  match candidates s with
  | [] =>
    .ok (if isNegativeNumber s || s.contains ' ' then .word whole else .unknown whole)
  | [(spelling, c, attached)] => .ok (.choice c (isShort spelling.toList) attached)
  | several => .error (.ambiguous whole (several.map (·.1)))

def ofArgument (s : List Char) : Except UsageFault Piece :=
  let whole := String.ofList s
  match s with
  | '-' :: _ :: _ =>
    match choice? whole, atEquals s with
    | some c, _ => .ok (.choice c (isShort s) none)
    | none, (front, some value) =>
      match choice? (.ofList front) with
      | some c => .ok (.choice c (isShort front) (some value))
      | none => ofUnspelled s
    | none, (_, none) => ofUnspelled s
  | _ => .ok (.word whole)

def ofArguments : List String → Except UsageFault (List Piece)
  | [] => .ok []
  | s :: r =>
    if s = "--" then .ok (.separator :: r.map .word)
    else do
      let first ← ofArgument s.toList
      return first :: (← ofArguments r)

/-- The argument as it was given, for what stands behind a separator. -/
def given : Piece → String
  | .word s => s
  | .unknown s => s
  | .choice c _ _ => c.called
  | .separator => "--"

end Piece

/-- What ends the reading early. -/
inductive Stop where
  | help
  | version
  | usage (f : UsageFault)
  deriving Repr, DecidableEq

structure Progress where
  arguments : Arguments := {}
  leftOver : List String := []
  fileTaken : Bool := false

namespace Progress

def leave (p : Progress) (ss : List String) : Progress := { p with leftOver := p.leftOver ++ ss }

/-- A file and an address exclude each other. -/
def takeFile (p : Progress) (s : String) : Except Stop Progress :=
  if p.arguments.url.isSome then .error (.usage .fileBesideUrl)
  else .ok { p with arguments := { p.arguments with file := some s }, fileTaken := true }

def set (p : Progress) (c : Choice) (value : String) : Except Stop Progress :=
  let a := p.arguments
  let keep (a : Arguments) : Except Stop Progress := .ok { p with arguments := a }
  match c with
  | .help => .error .help
  | .version => .error .version
  | .url =>
    if a.file.isSome then .error (.usage .urlBesideFile) else keep { a with url := some value }
  | .output => keep { a with output := value }
  | .package => keep { a with package := some value }
  | .config => keep { a with config := some value }
  | .tab => keep { a with useTabs := true }
  | .indentSpaces =>
    match integer? value.toList with
    | some n => keep { a with indentSpaces := some n }
    | none => .error (.usage (.notInteger c value))
  | .namePrefix => keep { a with namePrefix := some value }
  | .noDocs => keep { a with noDocs := true }
  | .dryRun => keep { a with dryRun := true }
  | .listPackages => keep { a with listPackages := true }
  | .verbose => keep { a with verbose := true }
  | .logFile => keep { a with logFile := some value }

def setAll (p : Progress) (cs : List (Choice × String)) : Except Stop Progress :=
  cs.foldlM (fun p c => p.set c.1 c.2) p

end Progress

/-- The choices of a run of letters: the first one and what is attached to it,
which are more letters if it takes no value. The last letter is given apart if it
has nothing attached to it. -/
def letters (c : Choice) (short : Bool) (attached : List Char) :
    Except Stop (List (Choice × String) × Option Choice) :=
  let needless : Except Stop (List (Choice × String) × Option Choice) :=
    .error (.usage (.needlessValue c (.ofList attached)))
  if c.takesValue then .ok ([(c, .ofList attached)], none)
  else match attached with
    | [] => needless
    | x :: r =>
      if !short then needless
      else match choice? (.ofList ['-', x]), r with
        | none, _ => needless
        | some d, [] => .ok ([(c, "")], some d)
        | some d, y :: r => (letters d true (y :: r)).map fun (cs, e) => ((c, "") :: cs, e)

/-- The word that follows a choice as its value. -/
def nextValue? : List Piece → Option String
  | .word v :: _ => some v
  | _ => none

/-- Sets choices, the last of which may take the next word as its value; tells
whether it did. -/
def settle (p : Progress) (cs : List (Choice × String)) (last : Choice) (rest : List Piece) :
    Except Stop (Progress × Bool) :=
  if last.takesValue then
    match nextValue? rest with
    | some v => (p.setAll (cs ++ [(last, v)])).map (·, true)
    | none => .error (.usage (.noValue last))
  else (p.setAll (cs ++ [(last, "")])).map (·, false)

/-- What one choice does, and whether it takes the next word. -/
def choose (p : Progress) (c : Choice) (short : Bool) (attached : Option (List Char))
    (rest : List Piece) : Except Stop (Progress × Bool) :=
  match attached with
  | none => settle p [] c rest
  | some value => do
    match ← letters c short value with
    | (cs, none) => return (← p.setAll cs, false)
    | (cs, some last) => settle p cs last rest

/-- Goes through the pieces; `skipping` is set where the next one has already
been taken as a value. -/
def readFrom (p : Progress) (skipping : Bool) : List Piece → Except Stop Progress
  | [] => .ok p
  | piece :: r =>
    if skipping then readFrom p false r
    else match piece with
      | .word s =>
        if p.fileTaken then readFrom (p.leave [s]) false r
        else do
          let p ← p.takeFile s
          match r with
          | .separator :: words => return p.leave (words.map Piece.given)
          | r => readFrom p false r
      | .separator =>
        if p.fileTaken then .ok (p.leave ("--" :: r.map Piece.given))
        else match r.map Piece.given with
          | [] => .ok p
          | s :: words => (p.takeFile s).map (·.leave words)
      | .unknown s => readFrom (p.leave [s]) false r
      | .choice c short attached => do
        let (p, taken) ← choose p c short attached r
        readFrom p taken r

def Arguments.read (line : List String) : Except Stop Arguments := do
  let pieces ← (Piece.ofArguments line).mapError .usage
  let p ← readFrom {} false pieces
  if p.leftOver.isEmpty then return p.arguments
  else throw (.usage (.unrecognized p.leftOver))

end UmlPress.Command
