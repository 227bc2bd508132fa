import UmlPress.Text.Blank
import UmlPress.Text.Quoted
import UmlPress.Text.Sign

/-!
# Garbled texts

Bytes that are read in the wrong encoding make a text that looks garbled: it has
characters without a shape, too many signs, or letters of different writing
systems side by side. The more of these a text has, the higher is its measure,
which is a number of thousandths.
-/
namespace UmlPress.Text

/-- Signs that say nothing about a text, since formats are full of them. -/
def isCommonSign (c : Char) : Bool :=
  within [(0x22, 0x22), (0x26, 0x26), (0x28, 0x29), (0x2c, 0x2d), (0x2f, 0x2f), (0x3a, 0x3e),
    (0x5b, 0x5b), (0x5d, 0x5d), (0x7b, 0x7d)] c

/-- Characters that do not show, though they are no white space. -/
def isStray (c : Char) : Bool :=
  !isBlank c && !isPrintable c && c ≠ '\x1a' && c ≠ '\ufeff'

inductive Script where
  | latin
  | arabic
  | eastern
  /-- Any other one, by the place of its characters. -/
  | other (place : Nat)
  deriving Repr, DecidableEq

def latinRanges : List (Nat × Nat) :=
  [(0x0, 0x24f), (0x1e00, 0x1eff), (0x2c60, 0x2c7f), (0xa720, 0xa7ff)]

def arabicRanges : List (Nat × Nat) :=
  [(0x600, 0x6ff), (0x750, 0x77f), (0x870, 0x8ff), (0xfb50, 0xfdff), (0xfe70, 0xfeff)]

def easternRanges : List (Nat × Nat) :=
  [(0x2e80, 0x2fdf), (0x3000, 0x303f), (0x31c0, 0x31ef), (0x3300, 0x4dbf), (0x4e00, 0x9fff),
   (0xf900, 0xfaff), (0x20000, 0x323af)]

def script (c : Char) : Script :=
  if within latinRanges c then .latin
  else if within arabicRanges c then .arabic
  else if within easternRanges c then .eastern
  else .other (c.toNat / 128)

/-- Whether two characters side by side are of scripts that do not mix. Eastern
ones go with plain letters. -/
def clash (a b : Char) : Bool :=
  script a ≠ script b &&
    !(script a = .eastern && b.toNat < 128) && !(a.toNat < 128 && script b = .eastern)

/-- What has been counted in the front of a text. -/
structure Tally where
  count : Nat := 0
  stray : Nat := 0
  printable : Nat := 0
  signs : Nat := 0
  clashes : Nat := 0
  /-- The last printable character. -/
  before : Option Char := none
  /-- The last character of a word that is still going on. -/
  inWord : Option Char := none

namespace Tally

/-- What a sign counts for, unless it repeats the one before it. -/
def weight (t : Tally) (c : Char) : Nat :=
  if t.before = some c || isCommonSign c then 0
  else if isPunctuation c then 1
  else if isSymbol c then 2
  else 0

def add (t : Tally) (c : Char) : Tally :=
  if !isPrintable c then
    { t with count := t.count + 1, stray := t.stray + if isStray c then 1 else 0 }
  else
    let ends := c = ' ' || isPunctuation c || isCommonSign c
    { count := t.count + 1
      stray := t.stray
      printable := t.printable + 1
      signs := t.signs + t.weight c
      clashes := t.clashes + if !ends && t.inWord.any (clash · c) then 1 else 0
      before := some c
      inWord := if ends then none else some c }

/-- So many thousandths of a whole. -/
def share (part whole : Nat) : Nat := if whole = 0 then 0 else (2000 * part + whole) / (2 * whole)

/-- A few signs are no cause for doubt, nor is a clash in a short text. -/
def measure (t : Tally) : Nat :=
  let signs := share t.signs t.printable
  share (8 * t.stray) t.count + (if signs < 300 then 0 else signs) +
    if t.printable ≤ 13 then 0 else share (2 * t.clashes) t.printable

end Tally

/-- A text that is garbled by this much is no text. -/
def garbled : Nat := 200

/-- Every so many characters a text may already be known to be garbled. -/
def garbleFrom (t : Tally) : List Char → Nat
  | [] => t.measure
  | c :: r =>
    let t := t.add c
    if 1 < t.count && t.count % 32 = 1 && garbled ≤ t.measure then t.measure else garbleFrom t r

/-- How garbled a text with a line end behind it looks. -/
def garble (s : List Char) : Nat := garbleFrom {} (s ++ ['\n'])

end UmlPress.Text
