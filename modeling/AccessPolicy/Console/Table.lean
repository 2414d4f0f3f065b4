import AccessPolicy.Console.Print

/-!
# Tables

A table has a title, a row of column heads and rows of cells, all of them texts with markup; a cell
may have several lines. Columns are as wide as their widest line, with a space on both sides. If
that is too much for the console, the widest columns give way, down to the next wider ones, and
share what remains. What does not fit in its column is broken into lines at blanks, and cut with an
ellipsis where there are none.

* `Table.widths` are the widths of the columns, `shrink` the rule by which they give way;
* `Table.printed` is what a table prints.
-/

namespace AccessPolicy.Console

/-- A table. -/
structure Table where
  /-- The title above the table. -/
  title : String
  /-- The heads of the columns. -/
  heads : List String
  /-- The rows, each with a cell for each column. -/
  rows : List (List String)
deriving Repr

/-! ### Widths -/

/-- The sum of some numbers. -/
def total : List Nat → Nat
  | [] => 0
  | n :: ns => n + total ns

/-- The greatest of some numbers, zero if there is none. -/
def greatest (ns : List Nat) : Nat := ns.foldl max 0

/-- A share of a number among some sharers, to the nearest, and of two equally near ones the even
one. -/
def share (amount sharers : Nat) : Nat :=
  let low := amount / sharers
  let twice := 2 * (amount % sharers)
  if twice < sharers || (twice = sharers && low % 2 = 0) then low else low + 1

/-- Takes from the columns of a width, one after the other, their share of what is to go, but no
more than a bound. -/
def takeShares (width bound : Nat) (amount sharers : Nat) : List Nat → List Nat
  | [] => []
  | w :: rest =>
    if w = width && 0 < sharers then
      let n := min bound (share amount sharers)
      (w - n) :: takeShares width bound (amount - n) (sharers - 1) rest
    else w :: takeShares width bound amount sharers rest

/-- One step of giving way: the widest columns become as wide as the next wider ones, or give away
all that is to go. -/
def shrinkStep (limit : Nat) (widths : List Nat) : List Nat :=
  let widest := greatest widths
  let next := greatest (widths.filter (· ≠ widest))
  let excess := total widths - limit
  takeShares widest (min excess (widest - next)) excess (widths.filter (· = widest)).length widths

/-- Widths that fit a limit, after at most some steps. -/
def shrinkFor : Nat → Nat → List Nat → List Nat
  | 0, _, widths => widths
  | n + 1, limit, widths =>
    if total widths ≤ limit then widths else shrinkFor n limit (shrinkStep limit widths)

/-- Widths that fit a limit. Each step levels a column, or is the last. -/
def shrink (limit : Nat) (widths : List Nat) : List Nat :=
  shrinkFor (widths.length + 1) limit widths

/-- The width of the widest line of a text. -/
def longest (cs : List Char) : Nat :=
  greatest ((Text.splitOn Text.isLineBreak cs).map Text.width)

/-- The columns that the frame of a table takes, spaces around cells not counted. -/
def frameWidth (count : Nat) : Nat := count + 1

/-- The widths of the columns of cells, with the spaces around them. -/
def widths (rows : List (List (List Char))) (count : Nat) : List Nat :=
  let limit := columns - frameWidth count
  shrink limit ((List.range count).map fun i =>
    min limit (greatest (rows.map fun cells => longest (cells.getD i []) + 2)))

/-! ### Lines -/

/-- The strokes of a rule. -/
structure Strokes where
  /-- At the left edge. -/
  left : Char
  /-- Along the cells. -/
  along : Char
  /-- Between columns. -/
  between : Char
  /-- At the right edge. -/
  right : Char

/-- The rule above the heads. -/
def Strokes.top : Strokes := ⟨'┏', '━', '┳', '┓'⟩

/-- The rule under the heads. -/
def Strokes.head : Strokes := ⟨'┡', '━', '╇', '┩'⟩

/-- The rule under the last row. -/
def Strokes.bottom : Strokes := ⟨'└', '─', '┴', '┘'⟩

/-- Parts of a line with strokes at the edges and between them. -/
def framed (left between right : Char) (parts : List (List Char)) : List Char :=
  left :: ([between].intercalate parts ++ [right])

/-- A rule. -/
def rule (s : Strokes) (widths : List Nat) : List Char :=
  framed s.left s.between s.right (widths.map fun n => List.replicate n s.along)

/-- A line that takes all its columns: one that is short, as a joiner at its end can make it, is
filled once more, and one that is long is cut. -/
def fit (limit : Nat) (line : List Char) : List Char :=
  if Text.width line < limit then padRight limit line else truncate limit .fold line

/-- The lines of a cell. -/
def cellLines (width : Nat) (cell : List Char) : List (List Char) :=
  layOut (width - 2) .ellipsis .left cell

/-- A line of a cell, with a space on both sides. -/
def boxed (width : Nat) (line : List Char) : List Char := ' ' :: (fit (width - 2) line ++ [' '])

/-- The lines of a row of cells. -/
def rowLines (bar : Char) (widths : List Nat) (cells : List (List Char)) : List (List Char) :=
  let blocks := (widths.zip cells).map fun (n, cell) => (n, (cellLines n cell).map (boxed n))
  let height := greatest (blocks.map fun b => b.2.length)
  (List.range height).map fun i =>
    framed bar bar bar (blocks.map fun (n, lines) => lines.getD i (spaces n))

/-- The lines of the title of a table. -/
def titleLines (widths : List Nat) (title : List Char) : List (List Char) :=
  layOut (total widths + frameWidth widths.length) .fold .centre title

/-- The lines of a table under its title, from its rows, the heads first. -/
def frameLines (widths : List Nat) (heads : List (List Char)) (rows : List (List (List Char))) :
    List (List Char) :=
  rule .top widths :: rowLines '┃' widths heads
    ++ rule .head widths :: rows.flatMap (rowLines '│' widths)
    ++ [rule .bottom widths]

namespace Table

/-- The number of columns. -/
def size (t : Table) : Nat := t.heads.length

/-- What the cells of a column show, the head first. -/
def shownColumn (t : Table) (i : Nat) : Except Failure (List Markup.Shown) :=
  (t.heads.getD i "" :: t.rows.map (·.getD i "")).mapM Markup.shown

/-- Looks up the styles of the cells of a column. -/
def checkColumn (width : Nat) : List Markup.Shown → Except Failure Unit
  | [] => .ok ()
  | cell :: rest => do
    cell.check (cellLines width cell.text).length
    checkColumn width rest

/-- What a table prints. The texts of the columns are read before the title is. -/
def printed (t : Table) : Except Failure String := do
  let shown ← (List.range t.size).mapM t.shownColumn
  let title ← Markup.shown t.title
  let row (i : Nat) : List (List Char) := shown.map fun cells => (cells.getD i {}).text
  let heads := row 0
  let rows := (List.range t.rows.length).map fun i => row (i + 1)
  let widths := widths (heads :: rows) t.size
  let titleLines := titleLines widths title.text
  title.check titleLines.length
  (widths.zip shown).forM fun (width, cells) => checkColumn width cells
  output (titleLines ++ frameLines widths heads rows)

end Table

end AccessPolicy.Console
