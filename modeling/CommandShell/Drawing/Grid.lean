import CommandShell.Drawing.StyledText

/-!
Grids of cells with a title above and a heading over each column. A column is as wide as its widest
cell, and a row as high as its highest one.
-/

namespace CommandShell

/-- A column of a grid: its heading, the style of its cells, whether they stand at its right side,
and the cells of its widest line without the blanks beside it. -/
structure Column where
  heading : StyledText
  style : Style
  toRight : Bool
  cells : List StyledText
  width : Nat

namespace Column

def headingStyle : Style := (Style.ofColour "cyan" 6).switch .bold true

/-- A column as wide as its widest line. -/
def ofCells (heading : Text) (style : Style) (toRight : Bool) (cells : List StyledText) : Column :=
  let heading := StyledText.ofText heading
  let widths := (heading :: cells).map fun cell => cell.drawing.cells
  { heading, style, toRight, cells, width := widths.foldl max 0 }

/-- A line of a cell in the width of its column. -/
def placed (column : Column) (line : StyledText) : StyledText :=
  let line := line.untab.fit column.width
  let gap := column.width - line.cells
  if column.toRight then line.indent gap else line.extend gap

/-- The rows of a cell in a column, with one blank at each side. -/
def cellRows (column : Column) (style : Style) (cell : StyledText) : List Row :=
  cell.lines.map fun line =>
    let row := Row.fit .plain column.width (column.placed line).runs
    Row.underlay style (Row.blanks .plain 1 ++ row ++ Row.blanks .plain 1)

/-- The rows of a cell, filled up to a height. -/
def filledRows (column : Column) (style : Style) (height : Nat) (cell : StyledText) : List Row :=
  let rows := column.cellRows style cell
  rows ++ List.replicate (height - rows.length) (Row.blanks style (column.width + 2))

end Column

namespace Grid

/-- A rule across a grid: its left end, its line, its crossings and its right end. -/
def rule (left line crossing right : Char) (columns : List Column) : Row :=
  let parts := columns.map fun column => List.replicate (column.width + 2) line
  Row.ofText (left :: Text.join [crossing] parts ++ [right])

/-- One row of text with bars at its ends and between its cells. -/
def barred (bar : Char) (cells : List Row) : Row :=
  Row.ofText [bar] ++ cells.flatMap fun cell => cell ++ Row.ofText [bar]

def beside (bar : Char) (height : Nat) (cells : List (List Row)) : List Row :=
  (List.range height).map fun i => barred bar (cells.map fun rows => rows[i]?.getD [])

/-- The rows for one cell of each column. -/
def band (bar : Char) (cells : List (Column × Style × StyledText)) : List Row :=
  let height := (cells.map fun (_, _, cell) => cell.lines.length).foldl max 1
  beside bar height (cells.map fun (column, style, cell) => column.filledRows style height cell)

/-- The cells of a row, one of each column. -/
def cellsAt (columns : List Column) (i : Nat) : List (Column × Style × StyledText) :=
  columns.filterMap fun column => column.cells[i]?.map fun cell => (column, column.style, cell)

def titleRow (title : Text) (width : Nat) : Row :=
  let styled : StyledText := .ofText title (Style.plain.switch .italic true)
  let gap := width - styled.cells
  ((styled.indent (gap / 2)).extend (gap - gap / 2)).runs

def rows (title : Text) (columns : List Column) : List Row :=
  let width := (columns.map fun column => column.width + 3).foldl (· + ·) 1
  let count := (columns.map fun column => column.cells.length).foldl max 0
  let headings := columns.map fun column => (column, Column.headingStyle, column.heading)
  titleRow title width :: rule '┏' '━' '┳' '┓' columns ::
    band '┃' headings ++ rule '┡' '━' '╇' '┩' columns ::
    ((List.range count).flatMap fun i => band '│' (cellsAt columns i)) ++
    [rule '└' '─' '┴' '┘' columns]

/-- The rows of a grid, unless something keeps a cell from being drawn: the first such cell, row by
row, decides. -/
def draw (title : Text) (columns : List Column) : Except Fault (List Row) :=
  let count := (columns.map fun column => column.cells.length).foldl max 0
  let cells := (List.range count).flatMap (cellsAt columns)
  match cells.findSome? fun (_, _, cell) => cell.flaw with
  | some fault => .error fault
  | none => .ok (rows title columns)

end Grid

end CommandShell
