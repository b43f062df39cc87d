import CommandShell.Drawing.Grid
import CommandShell.Drawing.Panel
import CommandShell.Drawing.Tree
import CommandShell.Notice

/-!
Drawing messages. Errors and warnings stand in panels, lists in grids.
-/

namespace CommandShell.Message

def red : Style := .ofColour "red" 1

def green : Style := .ofColour "green" 2

def yellow : Style := .ofColour "yellow" 3

def cyan : Style := .ofColour "cyan" 6

def panelTitle : Text := " wsh"

def heading (t : Text) : StyledText := .ofText t (red.switch .bold true)

/-- A text behind a label in a style. -/
def labelled (style : Style) (label t : Text) : StyledText :=
  (({} : StyledText).append label style).append t

/-- What is said when a command failed. -/
def errorTree (command message : Text) : Tree :=
  .node (heading "Error")
    [.leaf (labelled cyan "Command: " command), .leaf (labelled red "Message: " message)]

/-- What is said when a command was called wrongly. -/
def usageTree (command usage : Text) : Tree :=
  .node (heading "Invalid usage")
    [.leaf (labelled cyan "Command: " command), .leaf (labelled green "Usage: " usage)]

/-- What is said when there is no such command. -/
def notFoundTree (line name : Text) (suggestions : List Text) : Tree :=
  let tips : Tree := .node (.ofText "Tips" green)
    [.leaf (.ofText ("Ensure '" ++ name ++ "' exists on your system or is available in PATH")),
     .leaf (.ofText "Double-check for typos")]
  let similar : Tree := .node (.ofText "Possible similar commands" cyan)
    (suggestions.map fun suggestion => .leaf (.ofText ('-' :: ' ' :: suggestion)))
  .node (heading "Command Not Found")
    (.leaf (labelled cyan "Input: " line) :: tips ::
      if suggestions.isEmpty then [] else [similar])

/-- The rows of a panel around content in the style of a name. -/
def panel (settings : Settings) (room : Nat) (name title : Text) (content : Drawing) :
    Except Fault (List Row) := do
  (← PanelStyle.ofName settings name).rows room title (.ok content)

def errorPanel (settings : Settings) (room : Nat) (tree : Tree) : Except Fault (List Row) :=
  panel settings room "error" panelTitle tree.drawing

def warningPanel (settings : Settings) (room : Nat) (message : Text) : Except Fault (List Row) :=
  panel settings room "warning" panelTitle (StyledText.ofText message yellow).drawing

/-- The welcome: its message and the keys with what they do, all of it with markup. -/
def welcomeText (settings : Settings) : Except Fault Text :=
  match settings.welcomeMessage with
  | .text message =>
    let keys := Settings.keyHelp.map fun (key, help) =>
      "  [cyan]" ++ key ++ "[/cyan] - " ++ help
    .ok (Text.join "\n" (message :: [] :: keys))
  | value => .error (.wrongKind ("sequence item 0: expected str instance, " ++ value.kindName ++
      " found"))

/-- The rows of the welcome, with an empty one below the panel. -/
def welcome (settings : Settings) (room : Nat) : Except Fault (List Row) := do
  if !settings.showBanner.isTrue then return []
  let message ← welcomeText settings
  let style ← PanelStyle.ofName settings "info"
  return (← style.rows room [] (Markup.drawing message)) ++ [[]]

def mapping (title name value : Text) (rows : List (Text × Text)) : Except Fault (List Row) := do
  let names ← rows.mapM fun (name, _) => Markup.read name
  let values ← rows.mapM fun (_, value) => Markup.read value
  Grid.draw title
    [.ofCells name (Style.plain.switch .bold true) false names, .ofCells value green false values]

def environment (entries : List (Text × Text)) : Except Fault (List Row) :=
  mapping "Environment" "Name" "Value" entries

/-- The text of a cell for a value. -/
def cellText : Json → Except Fault Text
  | .text t => .ok t
  | .null => .ok []
  | value => .error (.unrenderable ("unable to render " ++ value.kindName ++
      "; a string or other renderable object is required"))

/-- The grid of abbreviations, or that there are none. -/
def abbreviations (items : List (Text × Json)) : Except Fault (List Row) := do
  if items.isEmpty then return (StyledText.ofText "No abbreviations defined" yellow).rows
  mapping "Abbreviations" "Abbreviation" "Expansion"
    (← items.mapM fun (name, value) => return (name, ← cellText value))

def history (entries : List Entry) : Except Fault (List Row) := do
  let numbers := (List.range entries.length).map fun i => StyledText.ofText (Text.ofNat (i + 1))
  let commands ← entries.mapM fun entry => Markup.read entry.command
  Grid.draw "History"
    [.ofCells "#" (Style.plain.switch .dim true) true numbers,
     .ofCells "Command" (Style.plain.switch .bold true) false commands]

end CommandShell.Message
