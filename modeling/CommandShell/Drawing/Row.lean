import CommandShell.Drawing.Style
import CommandShell.Text.Width

/-!
Rows of a drawing. A row is a list of runs, each in one style, and a drawing a list of rows.
-/

namespace CommandShell

/-- A run of text in one style. -/
structure Run where
  style : Style := .plain
  text : Text

abbrev Row := List Run

namespace Row

def ofText (t : Text) : Row := [{ text := t }]

def blanks (style : Style) (n : Nat) : Row :=
  if n = 0 then [] else [⟨style, List.replicate n ' '⟩]

def text (row : Row) : Text := row.flatMap (·.text)

/-- The cells that a row takes: those of its runs. -/
def cells (row : Row) : Nat := (row.map fun run => Text.cells run.text).foldl (· + ·) 0

/-- What is written for a row, with or without the codes for its styles. -/
def written (coloured : Bool) (row : Row) : Text :=
  if coloured then row.flatMap fun run => run.style.wrap run.text else text row

/-- A row with a style under those of its runs. -/
def underlay (style : Style) (row : Row) : Row :=
  row.map fun run => { run with style := style.under run.style }

/-- The runs of a row that begin before a cell, the last of them cut there. -/
def cut : (room : Nat) → Row → Row
  | _, [] => []
  | room, run :: rest =>
    let n := Text.cells run.text
    if n < room then run :: cut (room - n) rest else [{ run with text := Text.cut room run.text }]

/-- A row in exactly so many cells: filled up with blanks, or cut. -/
def fit (style : Style) (width : Nat) (row : Row) : Row :=
  if cells row ≤ width then row ++ blanks style (width - cells row) else cut width row

/-- Rows one below the other, each with a line feed. -/
def page (coloured : Bool) (rows : List Row) : Text :=
  rows.flatMap fun row => written coloured row ++ ['\n']

end Row

end CommandShell
