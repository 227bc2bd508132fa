import UmlPress.Text.Blank
import UmlPress.Text.CaseTable

/-!
# Upper and lower case

Upper case is a text per character. Lower case is a character per character,
but for a capital sigma at the end of a word and for the dotted capital I.
-/
namespace UmlPress.Text

def shifted (runs : List CaseRun) (c : Char) : Char :=
  match runs.findSome? (CaseRun.move? c.toNat) with
  | some n => Char.ofNat n
  | none => c

/-- The full upper case of a character. -/
def upperChar (c : Char) : List Char :=
  match upperGroups.find? (fun g => g.1 == c.toNat) with
  | some g => g.2.map Char.ofNat
  | none => [shifted upperRuns c]

def upper (s : List Char) : List Char := s.flatMap upperChar

/-- Upper case for the first character; the rest is kept. -/
def capitalize : List Char → List Char
  | [] => []
  | c :: r => upperChar c ++ r

/-- A letter is the next thing met after the characters that are passed over. -/
def meetsCased (s : List Char) : Bool :=
  match s.dropWhile (within caseIgnorableRanges) with
  | c :: _ => within casedRanges c
  | [] => false

/-- Lower case of a text whose characters before it are `before`, nearest first. -/
def lowerAfter (before : List Char) : List Char → List Char
  | [] => []
  | c :: r =>
    (if c = 'Σ' then [if meetsCased before && !meetsCased r then 'ς' else 'σ']
     else if c = 'İ' then ['i', Char.ofNat 0x307]
     else [shifted lowerRuns c]) ++ lowerAfter (c :: before) r

def lower (s : List Char) : List Char := lowerAfter [] s

theorem capitalize_cons (c : Char) (r : List Char) :
    capitalize (c :: r) = upperChar c ++ r := rfl

end UmlPress.Text
