import CommandShell.Completion.Engine
import CommandShell.Editor
import CommandShell.Screen

/-!
The shell as a whole: the world it runs in, its settings and session, the line being edited, and the
screen.
-/

namespace CommandShell

/-- How the terminal treats typed characters: one by one, or line by line with echo. -/
inductive TerminalMode
  | raw
  | cooked
  deriving DecidableEq, Repr

/-- A running shell. Changes of the terminal mode are kept with the newest first. -/
structure Shell where
  world : World
  settings : Settings
  session : Session
  screen : Screen
  editor : Editor := {}
  flags : FlagCache
  highlighter : Option Lookups := none
  mode : TerminalMode := .cooked
  modeChanges : List TerminalMode := []

namespace Shell

def inWorld {α : Type} (act : Act World α) : Act Shell α :=
  act.part (·.world) fun world shell => { shell with world }

def changeSession (change : Session → Session) : Act Shell Unit :=
  modify fun shell => { shell with session := change shell.session }

def changeEditor (change : Editor → Editor) : Act Shell Unit :=
  modify fun shell => { shell with editor := change shell.editor }

def changePager (change : Pager → Pager) : Act Shell Unit :=
  changeSession fun session => { session with pager := change session.pager }

def closePager : Act Shell Unit := changePager fun _ => {}

def display (notice : Notice) : Act Shell Unit := do
  let shell ← get
  let screen ← Act.ofExcept (shell.screen.present shell.settings notice)
  modify fun shell => { shell with screen }

def note (level : Level) (source text : Text) : Act Shell Unit :=
  inWorld (World.note level source text)

/-- Sets the mode of the terminal, if it is not in that mode already. -/
def setMode (mode : TerminalMode) : Act Shell Unit :=
  modify fun shell =>
    if shell.mode = mode then shell
    else { shell with mode, modeChanges := mode :: shell.modeChanges }

/-- What names are looked up in. -/
def around (shell : Shell) : Surroundings :=
  ⟨shell.world, shell.session.environment, shell.session.current⟩

/-- The styles of a line. Characters that no screen shows are left out before they are found. -/
def styleLine (around : Surroundings) (line : Text) : Act Shell (List Span) := do
  let shell ← get
  let (lookups, spans) :=
    (shell.highlighter.getD {}).spans shell.settings around (Text.withoutControls line)
  set { shell with highlighter := some lookups }
  return spans

end Shell

end CommandShell
