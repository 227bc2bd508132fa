import UmlPress.Binary64
import UmlPress.Console.Markup
import UmlPress.Console.Wrap

/-!
# Tables

Columns are as wide as their widest cell. Where that is too much, the widest
columns give way first. A table has a frame with rounded corners, a line under
its head and a title above it.
-/
namespace UmlPress.Console.Table

/-- The columns that a text wants. -/
def wanted (s : List Char) : Nat := ((Text.lines s).map width).foldl max 0

/-- A space on either side of a cell. -/
def padding : Nat := 2

/-- The width of a column within limits. -/
def measured (limit : Nat) (cells : List (List Char)) : Nat :=
  (cells.map fun c => min limit (wanted c + padding)).foldl max 0

/-- Takes an amount away from values in the given shares, and no more from each
than its limit. -/
def reduced (amount shares : Nat) : List (Nat × Nat × Nat) → List Nat
  | [] => []
  | (share, limit, value) :: r =>
    if share = 0 || limit = 0 then value :: reduced amount shares r
    else
      let part := min limit (Binary64.roundHalfEven (share * amount) shares)
      (value - part) :: reduced (amount - part) (shares - share) r

def reduceBy (amount : Nat) (entries : List (Nat × Nat × Nat)) : List Nat :=
  let shares := total (entries.map fun e => if e.2.1 = 0 then 0 else e.1)
  if shares = 0 then entries.map (·.2.2) else reduced amount shares entries

/-- Narrows the widest columns to the next width below, again and again. Each
round brings two widths together or ends the narrowing. -/
def collapsed (limit : Nat) : Nat → List Nat → List Nat
  | 0, widths => widths
  | n + 1, widths =>
    let excess := total widths - limit
    if excess = 0 then widths
    else
      let widest := widths.foldl max 0
      let next := (widths.filter (· ≠ widest)).foldl max 0
      let entries := widths.map fun w =>
        (if w = widest then 1 else 0, min excess (widest - next), w)
      collapsed limit n (reduceBy excess entries)

def columnWidths (limit : Nat) (columns : List (List (List Char))) : List Nat :=
  let widths := columns.map (measured limit)
  if total widths ≤ limit then widths
  else
    let widths := collapsed limit (total widths + 1) widths
    let widths := if total widths ≤ limit then widths
      else reduceBy (total widths - limit) (widths.map fun w => (1, w, w))
    (widths.zip columns).map fun (w, column) => measured w column

/-- The lines of a cell, filled up to the width of its column. -/
def cellLines (columns : Nat) (s : List Char) : List (List Char) :=
  (layout .ellipsis .left (columns - padding) s).map fun l => ' ' :: l ++ [' ']

/-- A line across the columns. -/
def framed (left between right : Char) (parts : List (List Char)) : List Char :=
  left :: [between].intercalate parts ++ [right]

def ruled (left between right : Char) (widths : List Nat) : List Char :=
  framed left between right (widths.map fun w => List.replicate w '─')

def row (widths : List Nat) (cells : List (List Char)) : List (List Char) :=
  let blocks := (widths.zip cells).map fun (w, c) => (w, cellLines w c)
  let height := (blocks.map fun b => b.2.length).foldl max 0
  (List.range height).map fun i =>
    framed '│' '│' '│' (blocks.map fun b => b.2.getD i (spaces b.1))

/-- The lines of a table whose texts show as they are. -/
def lines (limit : Nat) (title : List Char) (head : List (List Char))
    (rows : List (List (List Char))) : List (List Char) :=
  let columns := head.zipIdx.map fun (h, i) => h :: rows.map fun r => r.getD i []
  let widths := columnWidths (limit - (head.length + 1)) columns
  let whole := total widths + head.length + 1
  layout .fold .center whole title ++ [ruled '╭' '┬' '╮' widths] ++ row widths head ++
    [ruled '├' '┼' '┤' widths] ++ rows.flatMap (row widths) ++ [ruled '╰' '┴' '╯' widths]

/-- Cells are read column by column, so the first fault is the one that stands
furthest to the left. -/
def unmarkedRows (count : Nat) (rows : List (List (List Char))) :
    Except MarkupFault (List (List (List Char))) := do
  let columns ← (List.range count).mapM fun i => rows.mapM fun r => unmarked (r.getD i [])
  return rows.zipIdx.map fun (_, j) => columns.map fun c => c.getD j []

/-- The lines of a table whose cells are marked-up texts. -/
def render (limit : Nat) (title : String) (head : List String) (rows : List (List String)) :
    Except MarkupFault (List (List Char)) := do
  let rows ← unmarkedRows head.length (rows.map fun r => r.map String.toList)
  return lines limit title.toList (head.map String.toList) rows

end UmlPress.Console.Table
