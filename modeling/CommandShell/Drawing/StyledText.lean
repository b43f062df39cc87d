import CommandShell.Drawing.Row
import CommandShell.Text.Blank

/-!
Text with styles: one for the whole of it, and one for each of some stretches. Where stretches
overlap, the later one lies over the earlier. Styled text is drawn as rows of runs.
-/

namespace CommandShell

/-- A stretch of a text, from one offset up to another, and its style. -/
structure Stretch where
  start : Nat
  stop : Nat
  style : Style

/-- The part of a stretch that lies in a piece of the text, with offsets in that piece. -/
def Stretch.within? (stretch : Stretch) (start length : Nat) : Option Stretch :=
  let first := stretch.start - start
  let last := min (stretch.stop - start) length
  if first < last then some { stretch with start := first, stop := last } else none

/-- Text with styles, and what keeps it from being drawn, if anything does. -/
structure StyledText where
  text : Text := []
  base : Style := .plain
  stretches : List Stretch := []
  flaw : Option Fault := none

namespace StyledText

/-- A text in a style. Characters that no screen shows are left out. -/
def ofText (t : Text) (base : Style := .plain) : StyledText :=
  { text := Text.withoutControls t, base }

def append (styled : StyledText) (t : Text) (style : Style := .plain) : StyledText :=
  let shown := Text.withoutControls t
  let start := styled.text.length
  { styled with
    text := styled.text ++ shown
    stretches := styled.stretches ++
      (if t.isEmpty || style.isPlain then [] else [⟨start, start + shown.length, style⟩]) }

def cells (styled : StyledText) : Nat := Text.cells styled.text

def styleAt (styled : StyledText) (offset : Nat) : Style :=
  (styled.stretches.filter fun stretch => stretch.start ≤ offset && offset < stretch.stop).foldl
    (fun style stretch => style.under stretch.style) styled.base

/-- Whether a stretch starts or stops at an offset. -/
def isEdge (styled : StyledText) (offset : Nat) : Bool :=
  styled.stretches.any fun stretch => stretch.start == offset || stretch.stop == offset

/-- The runs of the part of a text from an offset on. A run ends where a stretch starts or
stops. -/
def runsFrom (styled : StyledText) : (offset : Nat) → Text → List Run
  | _, [] => []
  | offset, c :: rest =>
    match runsFrom styled (offset + 1) rest with
    | [] => [⟨styled.styleAt offset, [c]⟩]
    | run :: later =>
      if styled.isEdge (offset + 1) then ⟨styled.styleAt offset, [c]⟩ :: run :: later
      else { run with text := c :: run.text } :: later

def runs (styled : StyledText) : List Run := styled.runsFrom 0 styled.text

theorem text_runsFrom (styled : StyledText) (offset : Nat) (t : Text) :
    Row.text (styled.runsFrom offset t) = t := by
  induction t generalizing offset with
  | nil => rfl
  | cons c t ih =>
    have later := ih (offset + 1)
    unfold runsFrom
    split
    · next none => simp_all [Row.text]
    · next run rest found =>
      rw [found] at later
      split <;> simp_all [Row.text]

theorem text_runs (styled : StyledText) : Row.text styled.runs = styled.text :=
  styled.text_runsFrom 0 styled.text

/-- The cells between two stops of the tabulator. -/
def tabStop : Nat := 8

/-- The pieces of a text, each up to a tabulator and with it. -/
def tabPieces : Text → List Text
  | [] => []
  | c :: rest =>
    if c = '\t' then [c] :: tabPieces rest
    else match tabPieces rest with
      | [] => [[c]]
      | piece :: later => (c :: piece) :: later

/-- Pieces from a column on, with blanks up to the next stop for the tabulator at the end of each.
-/
def untabPieces : (column : Nat) → List Text → List Text
  | _, [] => []
  | column, piece :: rest =>
    if piece.getLast? = some '\t' then
      let filled := piece.dropLast ++ [' ']
      let reached := column + Text.cells filled
      let gap := (tabStop - reached % tabStop) % tabStop
      (filled ++ List.replicate gap ' ') :: untabPieces (reached + gap) rest
    else piece :: untabPieces (column + Text.cells piece) rest

/-- The stretches of a text whose pieces from an offset on are replaced by others. Each piece gets
stretches of its own, and one that reaches the end of its piece does so in the new piece too. -/
def pieceStretches (styled : StyledText) : (old new : Nat) → List (Text × Text) → List Stretch
  | _, _, [] => []
  | old, new, (piece, shown) :: rest =>
    let whole := if styled.base.isPlain then [] else [⟨new, new + shown.length, styled.base⟩]
    let inside := (styled.stretches.filterMap (·.within? old piece.length)).map fun stretch =>
      let stop := if stretch.stop = piece.length then shown.length else stretch.stop
      { stretch with start := new + stretch.start, stop := new + stop }
    whole ++ inside ++ pieceStretches styled (old + piece.length) (new + shown.length) rest

def untab (styled : StyledText) : StyledText :=
  if styled.text.contains '\t' then
    let pieces := tabPieces styled.text
    let shown := untabPieces 0 pieces
    { styled with text := shown.flatten, stretches := styled.pieceStretches 0 0 (pieces.zip shown) }
  else styled

def take (styled : StyledText) (n : Nat) : StyledText :=
  { styled with
    text := styled.text.take n
    stretches := styled.stretches.filterMap fun stretch =>
      if stretch.start < n then some { stretch with stop := min stretch.stop n } else none }

/-- A line without those of the blanks at its end that make it longer than so many characters. -/
def trimTo (styled : StyledText) (n : Nat) : StyledText :=
  let length := styled.text.length
  let blanks := (styled.text.reverse.takeWhile Text.isBlank).length
  styled.take (length - min blanks (length - n))

def fit (styled : StyledText) (room : Nat) : StyledText :=
  let trimmed := styled.trimTo room
  if trimmed.cells ≤ room then trimmed
  else
    let text := Text.cut room trimmed.text
    { trimmed.take text.length with text }

/-- Pieces of a text from an offset on, with one character between two of them. -/
def pieces (styled : StyledText) : (start : Nat) → List Text → List StyledText
  | _, [] => []
  | start, piece :: rest =>
    { styled with
      text := piece
      stretches := styled.stretches.filterMap (·.within? start piece.length) } ::
      pieces styled (start + piece.length + 1) rest

def lines (styled : StyledText) : List StyledText :=
  match Text.splitOn '\n' styled.text with
  | [] | [_] => [styled]
  | first :: second :: rest => styled.pieces 0 (first :: second :: rest)

/-- The rows of a text, as wide as its lines are. -/
def rows (styled : StyledText) : List Row := styled.lines.map fun line => line.untab.runs

/-- The text with blanks before it, in its own style. -/
def indent (styled : StyledText) (n : Nat) : StyledText :=
  { styled with
    text := List.replicate n ' ' ++ styled.text
    stretches := styled.stretches.map fun stretch =>
      { stretch with start := stretch.start + n, stop := stretch.stop + n } }

/-- The text with blanks behind it, in its own style. -/
def extend (styled : StyledText) (n : Nat) : StyledText :=
  { styled with text := styled.text ++ List.replicate n ' ' }

/-- What is written for a text, its rows with line feeds between them. -/
def written (coloured : Bool) (styled : StyledText) : Text :=
  Text.join "\n" (styled.rows.map (Row.written coloured))

end StyledText

/-- Something to be drawn: the cells that it takes side by side where it has room, what keeps it
from being drawn, and its rows in so many cells. -/
structure Drawing where
  cells : Nat
  flaw : Option Fault := none
  rows : (room : Nat) → List Row

def StyledText.drawing (styled : StyledText) : Drawing where
  cells := Text.widestLine styled.text
  flaw := styled.flaw
  rows room := styled.lines.map fun line => (line.untab.fit room).runs

/-- The rows of a drawing, each in exactly so many cells; where there is no cell there is no row. -/
def Drawing.rowsIn (drawing : Drawing) (width : Nat) : List Row :=
  if width = 0 then [] else (drawing.rows width).map (Row.fit .plain width)

end CommandShell
