import UmlPress.Json.Writer
import UmlPress.Misuse

/-!
# Options

The settings of one generation run, with the types they are known to have.
Entries under names that are no option are kept for the templates. Their keys are
values of any kind that is no container; two keys are the same if they find the
same thing, so that a truth value and the number it counts as are one key.
-/
namespace UmlPress

abbrev Custom := List (Json × Json)

namespace Custom

def get? (key : Json) : Custom → Option Json
  | [] => none
  | (k, v) :: r => if k.sameKey key then some v else get? key r

/-- Puts a value under a key, in the place of the first key that is the same. -/
def put (key value : Json) : Custom → Custom
  | [] => [(key, value)]
  | (k, v) :: r => if k.sameKey key then (k, value) :: r else (k, v) :: put key value r

/-- Puts every entry of the second list, in its order. -/
def update (c more : Custom) : Custom := more.foldl (fun acc e => put e.1 e.2 acc) c

def ofList (es : List (Json × Json)) : Custom := update [] es

def ofEntries (es : Entries) : Custom := es.map fun e => (.text e.1, e.2)

/-- A key as a name in the document format. -/
def keyName : Json → String
  | .null => "null"
  | .bool b => if b then "true" else "false"
  | .real x => .ofList (Json.writtenReal x)
  | k => k.display

/-- The entries as a document writes them, where keys that are not the same may
have one name. -/
def written (c : Custom) : Entries := c.map fun e => (keyName e.1, e.2)

/-- The entries behind a text, in the parts that a file is written in. -/
def partsFrom (before : List Char) : Custom → List Json.Part
  | [] => []
  | (k, v) :: r =>
    (if k.isShort then
      [some (before ++ Json.newLine 1), some (Json.writtenText (keyName k)), some [':', ' ']]
    else [none]) ++ v.parts 1 ++ partsFrom [','] r

/-- The entries as a file of their own. -/
def parts (c : Custom) : List Json.Part :=
  some ['\x7b'] :: partsFrom [] c ++ [some (Json.newLine 0), some ['\x7d']]

def quotedFrom : Custom → List String
  | [] => []
  | (k, v) :: r => (k.quoted ++ ": " ++ v.quoted) :: quotedFrom r

/-- The entries in messages. -/
def quoted (c : Custom) : String := "\x7b" ++ ", ".intercalate (quotedFrom c) ++ "\x7d"

theorem sameKey_text (s t : String) : (Json.text s).sameKey (.text t) = decide (s = t) := by
  simp [Json.sameKey, Json.equals]

theorem update_nil (c : Custom) : update c [] = c := rfl

theorem update_cons (c : Custom) (k v : Json) (r : Custom) :
    update c ((k, v) :: r) = update (put k v c) r := rfl

/-- With texts for keys, putting is that of lists with keys. -/
theorem put_ofEntries (k : String) (v : Json) (es : Entries) :
    put (.text k) v (ofEntries es) = ofEntries (Keyed.put k v es) := by
  induction es with
  | nil => rfl
  | cons e r ih =>
    by_cases h : e.1 = k
    · simp [ofEntries, put, Keyed.put, sameKey_text, h]
    · simpa [ofEntries, put, Keyed.put, sameKey_text, h] using ih

theorem update_ofEntries (es more : Entries) :
    update (ofEntries es) (ofEntries more) = ofEntries (Keyed.update es more) := by
  induction more generalizing es with
  | nil => rfl
  | cons e r ih =>
    obtain ⟨k, v⟩ := e
    rw [Keyed.update_cons, ← ih, ← put_ofEntries]
    rfl

end Custom

structure Options where
  useTabs : Bool := false
  indentSpaces : Nat := 4
  namePrefix : String := ""
  docString : Bool := true
  baseClass : String := "AVObject"
  fileExtension : String := ".dart"
  initFileName : String := "__init__.dart"
  templateDir : Option String := none
  custom : Custom := []

namespace Options

/-- The most characters that a text can have. -/
def longestText : Nat := 9223372036854775807

/-- The most characters that a text has room for. -/
def roomiestText : Nat := 100000000000

/-- Whether there can be a text of so many spaces. -/
def checkRoom (spaces : Nat) : Except Misuse Unit :=
  if longestText < spaces then .error .tooLong
  else if roomiestText < spaces then .error .noRoom
  else .ok ()

def indentUnit (o : Options) : String :=
  if o.useTabs then "\t" else .ofList (List.replicate o.indentSpaces ' ')

/-- Whether there can be the text that a level is indented by. -/
def checkIndent (o : Options) : Except Misuse Unit :=
  if o.useTabs then .ok () else checkRoom o.indentSpaces

end Options
end UmlPress
