import SocksRouter.Console.Wrap
import SocksRouter.Text.Lines

/-!
# Tables

A table has a title, columns with a heading each, and rows of cells. It is drawn with a frame; a
column is as wide as its widest cell and one blank on either side. When that is too wide for the
console, the widest columns that are left give way, all of one width at once, until the table fits,
and the texts in them are wrapped.
-/

namespace SocksRouter.Console

open Text

/-- A column of a table. -/
structure Column where
  /-- The heading. -/
  heading : List Char
  /-- Where the texts of the column stand. -/
  justify : Justify := .left
  deriving DecidableEq, Repr

/-- A table. -/
structure Table where
  /-- The title. -/
  title : Styled
  /-- The columns. -/
  columns : List Column
  /-- The rows, each with a text for every column. -/
  rows : List (List Styled)
  deriving DecidableEq, Repr

/-! ### Widths -/

/-- How many cells the widest line of a text takes. -/
def widestLine (s : List Char) : Nat :=
  ((lines s).map cells).foldl max 0

/-- A part of `total`, `numerator` over `denominator` of it, rounded to the nearest whole number; a
half goes to the even neighbour. -/
def shareOf (total numerator denominator : Nat) : Nat :=
  let low := total * numerator / denominator
  let twiceRest := 2 * (total * numerator % denominator)
  if twiceRest < denominator then low
  else if denominator < twiceRest then low + 1
  else low + low % 2

/-- Takes `excess` in all from the widths that are marked, an equal share from each of them but at
most `limit` from one. `marked` counts the marks that are left. -/
def reduce (excess marked limit : Nat) : List (Nat × Bool) → List Nat
  | [] => []
  | (width, false) :: rest => width :: reduce excess marked limit rest
  | (width, true) :: rest =>
    let taken := min limit (shareOf excess 1 marked)
    (width - taken) :: reduce (excess - taken) (marked - 1) limit rest

/-- Takes `excess` from the widest columns: down to the next widest ones at most. -/
def reduceWidest (excess : Nat) (widths : List Nat) : List Nat :=
  let widest := widths.foldl max 0
  let next := (widths.filter (· ≠ widest)).foldl max 0
  let marked := widths.map fun width ↦ (width, width == widest)
  reduce excess (marked.countP Prod.snd) (min excess (widest - next)) marked

/-- Makes widths smaller until their sum is `room`, in at most `rounds` rounds. -/
def collapse (room : Nat) : Nat → List Nat → List Nat
  | 0, widths => widths
  | rounds + 1, widths =>
    if totalWidth widths ≤ room then widths
    else collapse room rounds (reduceWidest (totalWidth widths - room) widths)

/-- The widths of columns whose texts are given, within `room` cells. -/
def fitWidths (room : Nat) (columns : List (List (List Char))) : List Nat :=
  let natural := columns.map fun texts ↦ min room ((texts.map widestLine).foldl max 0 + 2)
  collapse room (totalWidth natural) natural

/-! ### Drawing -/

/-- The lines of a cell, each with a blank on either side. -/
def drawCell (justify : Justify) (width : Nat) (text : Styled) : List (List Char) :=
  (wrap justify .ellipsis (width - 2) text).map (Styled.framed width)

/-- The marks of a row: at its left end, between its cells, at its right end. -/
structure Marks where
  /-- The left end. -/
  left : Char
  /-- Between two cells. -/
  between : Char
  /-- The right end. -/
  right : Char

/-- A line of a table. -/
def drawLine (marks : Marks) (parts : List (List Char)) : List Char :=
  marks.left :: [marks.between].intercalate parts ++ [marks.right]

/-- A line of the frame. -/
def drawRule (marks : Marks) (bar : Char) (widths : List Nat) : List Char :=
  drawLine marks (widths.map fun width ↦ List.replicate width bar)

/-- The lines of a row, filled up with blank ones below its texts or above them. -/
def drawRow (marks : Marks) (above : Bool) (columns : List Column) (widths : List Nat)
    (texts : List Styled) : List (List Char) :=
  let drawn := (columns.zip (widths.zip texts)).map fun (column, width, text) ↦
    (width, drawCell column.justify width text)
  let height := (drawn.map fun (_, lines) ↦ lines.length).foldl max 1
  let filled := drawn.map fun (width, lines) ↦
    let missing := List.replicate (height - lines.length) (blanks width)
    if above then missing ++ lines else lines ++ missing
  (List.range height).map fun i ↦ drawLine marks (filled.map fun lines ↦ lines.getD i [])

namespace Table

/-- The texts of a column, its heading first. -/
def columnTexts (table : Table) (i : Nat) : List (List Char) :=
  let texts := table.rows.filterMap fun row ↦ row[i]?
  (table.columns.map Column.heading).getD i [] :: texts.map Styled.content

/-- The widths of the columns. -/
def widths (table : Table) : List Nat :=
  let count := table.columns.length
  fitWidths (consoleWidth - (count + 1)) ((List.range count).map table.columnTexts)

/-- The lines of a table. -/
def draw (table : Table) : List (List Char) :=
  let widths := table.widths
  let whole := totalWidth widths + table.columns.length + 1
  let headings := table.columns.map fun column ↦ Styled.mk column.heading []
  let row (texts : List Styled) : List (List Char) :=
    drawRow ⟨'│', '│', '│'⟩ false table.columns widths texts
  (wrap .center .fold whole table.title).map (Styled.limit consoleWidth) ++
    drawRule ⟨'┏', '┳', '┓'⟩ '━' widths ::
    drawRow ⟨'┃', '┃', '┃'⟩ true table.columns widths headings ++
    drawRule ⟨'┡', '╇', '┩'⟩ '━' widths ::
    table.rows.flatMap row ++
    [drawRule ⟨'└', '┴', '┘'⟩ '─' widths]

/-- A table as the console shows it. -/
def printed (table : Table) : List Char :=
  table.draw.flatMap fun line ↦ line ++ ['\n']

end Table

end SocksRouter.Console
