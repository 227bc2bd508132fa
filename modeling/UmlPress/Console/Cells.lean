import UmlPress.Console.WidthTable

/-!
# Columns of a console

A text is cut into clusters, each with the number of columns it takes. What has
no width of its own belongs to the cluster before it; so does a character
behind a joiner, and the sign that asks for the form of a picture.
-/
namespace UmlPress.Console

def isControl (c : Char) : Bool := Text.within [(0x1, 0x1f), (0x7f, 0x9f)] c

/-- The columns of a character on its own. -/
def charWidth (c : Char) : Nat :=
  if isControl c || Text.within zeroRanges c then 0
  else if Text.within wideRanges c then 2
  else 1

structure Cluster where
  chars : List Char
  width : Nat
  deriving Repr, DecidableEq

def joiner : Char := '\u200d'

/-- The sign that asks for the form of a picture. -/
def pictureSign : Char := '\ufe0f'

/-- Puts characters into the last cluster. -/
def extend (cs : List Char) (wider : Nat) : List Cluster → List Cluster
  | [] => []
  | k :: r => ⟨k.chars ++ cs, k.width + wider⟩ :: r

/-- The clusters of a text, the last one first, given those so far and the last
character that has a width. -/
def clustersFrom (made : List Cluster) (last : Option Char) : List Char → List Cluster
  | [] => made
  | c :: r =>
    if c = joiner && !made.isEmpty then
      match r with
      | [] => extend [c] 0 made
      | d :: r => clustersFrom (extend [c, d] 0 made) last r
    else if c = pictureSign && !made.isEmpty then
      if last.any (Text.within presentableRanges) then clustersFrom (extend [c] 1 made) none r
      else clustersFrom (extend [c] 0 made) last r
    else if c = joiner || c = pictureSign then clustersFrom [⟨[c], 0⟩] last r
    else match charWidth c with
      | 0 =>
        if made.isEmpty then clustersFrom [⟨[c], 0⟩] last r
        else clustersFrom (extend [c] 0 made) last r
      | n + 1 => clustersFrom (⟨[c], n + 1⟩ :: made) (some c) r

def clusters (s : List Char) : List Cluster := (clustersFrom [] none s).reverse

def total (ns : List Nat) : Nat := ns.foldl (· + ·) 0

/-- The columns that a text takes. -/
def width (s : List Char) : Nat := total ((clusters s).map Cluster.width)

def spaces (n : Nat) : List Char := List.replicate n ' '

/-- As many clusters as fit; one that fits only in part becomes a space. -/
def cutClusters (room : Nat) : List Cluster → List Char
  | [] => []
  | k :: r =>
    if room = 0 then []
    else if room < k.width then spaces room
    else k.chars ++ cutClusters (room - k.width) r

/-- A text cut down, or filled up with spaces, to a number of columns. -/
def fit (columns : Nat) (s : List Char) : List Char :=
  let n := width s
  if n ≤ columns then s ++ spaces (columns - n) else cutClusters columns (clusters s)

/-- A text cut down to a number of columns. -/
def cropped (columns : Nat) (s : List Char) : List Char :=
  if width s ≤ columns then s else fit columns s

/-- A text cut down to a number of columns, the last of which shows that
something is missing. -/
def shortened (columns : Nat) (s : List Char) : List Char :=
  if width s ≤ columns then s else fit (columns - 1) s ++ ['…']

/-- Fills a text up with spaces. -/
def padded (columns : Nat) (s : List Char) : List Char := s ++ spaces (columns - width s)

/-- Cuts a text into pieces that are no wider than a number of columns. -/
def pieces (columns : Nat) (s : List Char) : List (List Char) :=
  let step (acc : List (List Char) × Nat) (k : Cluster) : List (List Char) × Nat :=
    match acc with
    | ([], _) => ([k.chars], k.width)
    | (line :: lines, used) =>
      if columns < used + k.width then (k.chars :: line :: lines, k.width)
      else ((line ++ k.chars) :: lines, used + k.width)
  ((clusters s).foldl step ([], 0)).1.reverse

end UmlPress.Console
