import CommandShell.Drawing.Line
import CommandShell.Drawing.Message

/-!
What the user sees. A screen either keeps the notices as they are or draws them.
-/

namespace CommandShell

/-- A screen that notices are drawn on: whether it has colours, how wide it is, whose prompt it
shows, what was written with the newest part first, and where the line being edited was left. -/
structure Canvas where
  coloured : Bool
  width : Nat
  user : Text
  parts : List Text := []
  area : EditArea := {}

namespace Canvas

def written (canvas : Canvas) : Text := canvas.parts.reverse.flatten

def write (canvas : Canvas) (t : Text) : Canvas := { canvas with parts := t :: canvas.parts }

def writeRows (canvas : Canvas) (rows : List Row) : Canvas :=
  canvas.write (Row.page canvas.coloured rows)

/-- Leaves the line being edited and writes text below it. -/
def leave (canvas : Canvas) (t : Text) : Canvas :=
  { canvas.write (canvas.area.leave ++ t) with area := {} }

def drawLine (canvas : Canvas) (settings : Settings) (view : LineView) : Except Fault Canvas := do
  let written ← view.written settings canvas.coloured canvas.user canvas.area
  return { canvas.write written with area := view.area }

def draw (canvas : Canvas) (settings : Settings) : Notice → Except Fault Canvas
  | .welcome => canvas.writeRows <$> Message.welcome settings canvas.width
  | .goodbye => .ok (canvas.writeRows (StyledText.ofText "Goodbye!" Message.yellow).rows)
  | .line view => canvas.drawLine settings view
  | .finishLine => .ok (canvas.leave (Code.newRow ++ Code.clearBelow))
  | .clearScreen => .ok { canvas.write Code.clearScreen with area := {} }
  | .interruptMark => .ok (canvas.leave ("^C" ++ Code.newRow))
  | .interrupt =>
    canvas.writeRows <$>
      Message.warningPanel settings canvas.width "^C - Command interrupted"
  | .output t => .ok (canvas.writeRows (StyledText.ofText (Symbol.replaceNames t)).rows)
  | .warning message => canvas.writeRows <$> Message.warningPanel settings canvas.width message
  | .error command message =>
    canvas.writeRows <$>
      Message.errorPanel settings canvas.width (Message.errorTree command message)
  | .usage command usage =>
    canvas.writeRows <$>
      Message.errorPanel settings canvas.width (Message.usageTree command usage)
  | .commandNotFound line name suggestions =>
    canvas.writeRows <$>
      Message.errorPanel settings canvas.width (Message.notFoundTree line name suggestions)
  | .environment entries => canvas.writeRows <$> Message.environment entries
  | .abbreviations items => canvas.writeRows <$> Message.abbreviations items
  | .history entries => canvas.writeRows <$> Message.history entries

end Canvas

/-- A screen; notices are kept with the newest first. -/
inductive Screen
  | record (notices : List Notice)
  | drawn (canvas : Canvas)

namespace Screen

def present (settings : Settings) (notice : Notice) : Screen → Except Fault Screen
  | record notices => .ok (record (notice :: notices))
  | drawn canvas => drawn <$> canvas.draw settings notice

end Screen

end CommandShell
