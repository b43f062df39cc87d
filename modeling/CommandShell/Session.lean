import CommandShell.Completion.Programs
import CommandShell.History
import CommandShell.Pager
import CommandShell.Settings

/-!
What one session of the shell changes: its environment and folders, its exit status, and what it
remembers.
-/

namespace CommandShell

/-- The state of a session. -/
structure Session where
  environment : Environment
  current : Text
  previous : Option Text := none
  running : Bool := true
  lastCode : Int := 0
  history : History := {}
  abbreviations : Abbreviations := {}
  pager : Pager := {}

namespace Session

/-- The home folder of the session, or that of the process. -/
def home (session : Session) (world : World) : Except Fault Text :=
  match session.environment.get? "HOME" with
  | some (c :: home) => .ok (c :: home)
  | _ =>
    match world.homeText? with
    | some home => .ok (Path.ofText home).text
    | none => .error (.program "Could not determine home directory.")

/-- A typed path with `~` for the home folder, behind the current folder unless it starts at the
root. -/
def expandPath (session : Session) (world : World) (path : Text) : Except Fault Text := do
  let expanded ← match path with
    | ['~'] => session.home world
    | '~' :: '/' :: rest => return Path.join session.current ((← session.home world) ++ '/' :: rest)
    | path => pure path
  return Path.join session.current expanded

/-- The current folder as it is shown, with `~` for the home folder. -/
def shownFolder (session : Session) (world : World) : Except Fault Text := do
  let home := ((← session.home world).reverse.dropWhile (· = '/')).reverse
  if home.isEmpty then return session.current
  match Text.dropStart? home session.current with
  | some [] => return ['~']
  | some ('/' :: rest) => return '~' :: '/' :: rest
  | _ => return session.current

/-- The session with the folder that the process is in as its current one. -/
def followProcess (session : Session) (world : World) : Session :=
  { session with
    current := world.here
    environment := session.environment.set "PWD" world.here }

/-- A session with the environment of the process, and the history and abbreviations from their
files. -/
def create (settings : Settings) : Act World Session := do
  let limit ← Act.ofExcept settings.historyLimit.whole
  let (history, result) ← liftM (History.ofLimit settings.historyFile limit).load
  Act.ofExcept result
  let table : Abbreviations :=
    { file := settings.abbreviationFile, table := Table.ofPairs settings.abbreviations }
  let (abbreviations, _) ← table.load
  let world ← get
  return { environment := world.environment, current := world.here, history, abbreviations }

end Session

end CommandShell
