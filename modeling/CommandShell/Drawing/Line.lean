import CommandShell.Drawing.Panel
import CommandShell.Notice

/-!
Drawing the line being edited. The line stands behind a prompt, a suggestion follows it, and the
rows of the pager stand below. After each drawing the cursor of the terminal is where the cursor of
the editor is; the rows above and below it are remembered, so that the next drawing starts where
this one did.
-/

namespace CommandShell

namespace Settings

/-- The style of a part of the prompt or the pager. -/
def promptStyle (settings : Settings) (name : Text) : Except Fault Style :=
  match settings.promptStyles.get? name with
  | none => .ok .plain
  | some value =>
    if !value.isTrue then .ok .plain
    else match value with
      | .text words => (Style.read words).mapError (StyleProblem.fault .style)
      | value => .error value.styleFault

/-- The window of the pager that the settings allow. -/
def pagerWindow (settings : Settings) (pager : Pager) : Except Fault (Int × Int) :=
  let count := pager.candidates.length
  match settings.pagerRows with
  | .int most => .ok (pager.window most)
  | .bool most => .ok (pager.window (if most then 1 else 0))
  | .float most =>
    if !most.less (.ofFraction false count 1) && !(most matches .nan) then .ok (0, count)
    else .error (.wrongKind "'float' object cannot be interpreted as an integer")
  | value => .error (.wrongKind ("'<=' not supported between instances of 'int' and '" ++
      value.kindName ++ "'"))

end Settings

/-- The prompt: the user, the folder and a sign, each in its style. -/
def promptOf (settings : Settings) (user folder : Text) : Except Fault StyledText := do
  let part (styled : StyledText) (t name : Text) : Except Fault StyledText := do
    return styled.append t (← settings.promptStyle name)
  let prompt ← part {} user "user"
  let prompt ← part prompt ":" "separator"
  let prompt ← part prompt folder "path"
  part prompt "> " "prompt_symbol"

namespace Pager

/-- The row of a candidate, with its description behind it. -/
def rowOf (settings : Settings) (chosen : Bool) (candidate : Candidate) :
    Except Fault StyledText := do
  let style ← settings.promptStyle (if chosen then "pager_selected" else "pager_item")
  let styled := StyledText.ofText candidate.display style
  match candidate.description with
  | some (c :: description) =>
    return (styled.append "  ").append (c :: description)
      (← settings.promptStyle "pager_description")
  | _ => return styled

/-- Rows of candidates from a position in the list on. -/
def rowsFrom (settings : Settings) (selected : Nat) :
    (position : Nat) → List Candidate → Except Fault (List StyledText)
  | _, [] => .ok []
  | position, candidate :: rest => do
    let row ← rowOf settings (position == selected) candidate
    let rows ← rowsFrom settings selected (position + 1) rest
    return row :: rows

/-- The row that says where in the list the selected candidate is. -/
def positionRow (settings : Settings) (pager : Pager) : Except Fault StyledText := do
  let position := Text.ofNat (pager.selected + 1) ++ '/' :: Text.ofNat pager.candidates.length
  return .ofText position (← settings.promptStyle "pager_description")

/-- The rows of a pager: the candidates in its window, and the position in the list if there are
others. -/
def rows (settings : Settings) (pager : Pager) : Except Fault (List StyledText) := do
  let (start, stop) ← settings.pagerWindow pager
  let inside := (pager.candidates.drop start.toNat).take (stop - start).toNat
  let rows ← rowsFrom settings pager.selected start.toNat inside
  if stop - start < pager.candidates.length then return rows ++ [← pager.positionRow settings]
  else return rows

end Pager

/-- Where a drawn line leaves the terminal: the rows of it above the cursor and those below. -/
structure EditArea where
  above : Nat := 0
  below : Nat := 0
  deriving DecidableEq, Repr

/-! Codes that move the cursor of a terminal, and codes that clear it. -/

namespace Code

/-- A code with a count, or nothing for none. -/
def counted (n : Nat) (letter : Char) : Text :=
  if n = 0 then [] else "\x1b[" ++ Text.ofNat n ++ [letter]

def up (n : Nat) : Text := counted n 'A'

def down (n : Nat) : Text := counted n 'B'

def right (n : Nat) : Text := counted n 'C'

def rowStart : Text := "\r"

def newRow : Text := "\r\n"

/-- Clears what follows on the screen. -/
def clearBelow : Text := "\x1b[J"

/-- Clears what follows in the row. -/
def clearRow : Text := "\x1b[K"

/-- Clears the screen and moves to its upper left corner. -/
def clearScreen : Text := "\x1b[2J\x1b[H"

end Code

namespace LineView

def styled (view : LineView) : Except Fault StyledText := do
  let stretches ← (view.spans.getD []).mapM fun span => do
    return (⟨span.start, span.stop, ← span.style.textStyle⟩ : Stretch)
  return { StyledText.ofText view.text with stretches }

/-- How the suggestion goes on behind the line. -/
def tail (view : LineView) : Text :=
  (view.suggestion.bind (Text.dropStart? view.text)).getD []

def pagerRows (settings : Settings) (view : LineView) : Except Fault (List StyledText) :=
  match view.pager with
  | some pager => if pager.active then pager.rows settings else .ok []
  | none => .ok []

def before (view : LineView) : Text := Text.before view.cursor view.text

/-- Where the drawing leaves the cursor of the terminal. -/
def area (view : LineView) : EditArea :=
  let above := view.before.count '\n'
  ⟨above, view.text.count '\n' - above⟩

/-- The column of the cursor. The prompt stands before the first row only. -/
def column (view : LineView) (promptCells : Nat) : Nat :=
  let row := ((Text.splitOn '\n' view.before).getLast?).getD []
  Text.cells (Text.withoutControls row) + if view.area.above = 0 then promptCells else 0

/-- What is written for a line from where the last drawing left the cursor. -/
def written (settings : Settings) (coloured : Bool) (user : Text) (area : EditArea)
    (view : LineView) : Except Fault Text := do
  let prompt ← promptOf settings user view.folder
  let line ← view.styled
  let suggestion ←
    if view.tail.isEmpty then pure []
    else do
      let style ← settings.promptStyle "suggestion"
      pure ((StyledText.ofText view.tail style).written coloured)
  let rows ← view.pagerRows settings
  let below := rows.flatMap fun row =>
    Code.newRow ++ row.written coloured ++ Code.clearRow
  return Code.up area.above ++ Code.rowStart ++ Code.clearBelow ++ prompt.written coloured ++
    line.written coloured ++ suggestion ++ Code.clearRow ++ below ++ Code.up rows.length ++
    Code.up view.area.below ++ Code.rowStart ++ Code.right (view.column prompt.cells)

end LineView

namespace EditArea

/-- Moves to the last row of a line. -/
def leave (area : EditArea) : Text := Code.down area.below

end EditArea

end CommandShell
