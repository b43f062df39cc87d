import CommandShell.Files.Walk
import CommandShell.Text.Lines
import CommandShell.Json.Display

/-!
The world around the shell: files, the process environment, the clock, the clipboard, standard input
and the programs that can be started. Work in the world is an action: it changes the world and gives
a value or a fault, and what it changed before a fault stays changed.
-/

namespace CommandShell

/-- Work on a state that gives a value or a fault. The state is kept in both cases. -/
abbrev Act (σ α : Type) := ExceptT Fault (StateM σ) α

namespace Act

variable {σ τ α : Type}

def on (state : σ) (act : Act σ α) : Except Fault α × σ := act.run.run state

/-- Work on a part of a state. -/
def part (get : σ → τ) (set : τ → σ → σ) (act : Act τ α) : Act σ α :=
  ExceptT.mk fun state =>
    let (result, inner) := act.on (get state)
    (result, set inner state)

/-- What comes of work, as a value. -/
def attempt (act : Act σ α) : Act σ (Except Fault α) :=
  ExceptT.mk fun state =>
    let (result, state) := act.on state
    (.ok result, state)

/-- The value, or the fault as a fault of the work. -/
def ofExcept (result : Except Fault α) : Act σ α := ExceptT.mk fun state => (result, state)

end Act

/-- How much a message matters. -/
inductive Level
  | debug
  | info
  | warning
  | error
  | critical
  deriving DecidableEq, Repr

namespace Level

def rank : Level → Nat
  | debug => 10
  | info => 20
  | warning => 30
  | error => 40
  | critical => 50

def name : Level → Text
  | debug => "DEBUG"
  | info => "INFO"
  | warning => "WARNING"
  | error => "ERROR"
  | critical => "CRITICAL"

end Level

/-- A message in the journal, with the part of the shell that it comes from. -/
structure Message where
  level : Level
  source : Text
  text : Text
  deriving DecidableEq, Repr

namespace Message

def line (message : Message) : Text :=
  message.level.name ++ (" " : Text) ++ message.source ++ ": " ++ message.text

end Message

/-- A start of a program: its words, the folder it starts in, and its environment. -/
structure Launch where
  words : List Json
  folder : Option Text
  environment : Table Text
  deriving Repr

/-- What comes of starting a program. A negative code is the number of the signal that ended it. -/
inductive Outcome
  | code (value : Int)
  | refused (problem : FileProblem)
  | broken (reason : Text)
  | fault (fault : Fault)
  deriving Repr

/-- A request for a manual page: the command, the pager and the width asked for. -/
structure ManualRequest where
  command : Text
  pager : Text
  width : Text
  deriving DecidableEq, Repr

/-- The clipboard of the system. -/
inductive Clipboard
  | broken (reason : Text)
  | holding (text : Text)
  deriving DecidableEq, Repr

/-- The world around the shell. The clock counts seconds, with thousandths beside it. Launches,
requests and messages are kept with the newest first. -/
structure World where
  files : Files := {}
  environment : Table Text := []
  clock : Int64 := 0
  thousandths : Nat := 0
  input : Text := []
  inputBreaks : Bool := false
  clipboard : Clipboard := .holding []
  launches : List Launch := []
  outcome : List Launch → Outcome := fun _ => .code 0
  requests : List ManualRequest := []
  manual : List ManualRequest → Outcome × Text := fun _ => (.code 16, [])
  journal : List Message := []

namespace World

def note (level : Level) (source text : Text) : Act World Unit :=
  modify fun world => { world with journal := ⟨level, source, text⟩ :: world.journal }

/-- Work on the files at a path, which must not hold the null character. -/
def atPath {α : Type} (path : Text) (work : Files → Except FileProblem α) : Act World α := do
  if path.contains '\x00' then throw .nullInPath
  match work (← get).files with
  | .ok value => return value
  | .error problem => throw (.file problem path)

/-- Work that changes the files at a path. -/
def editAt (path : Text) (work : Files → Except FileProblem Files) : Act World Unit := do
  let files ← atPath path work
  modify fun world => { world with files }

def occupied (path : Text) : Act World Bool := do
  if path.contains '\x00' then return false
  atPath path (·.occupied path)

/-- The content of a file as text, with replacements for what is no text. -/
def readLossy (path : Text) : Act World Text := do
  let content ← atPath path (·.read path)
  return Text.plainBreaks (Utf8.decode content)

/-- The content of a file that must be text. -/
def readText (path : Text) : Act World Text := do
  let content ← atPath path (·.read path)
  match Utf8.decode? content with
  | some text => return Text.plainBreaks text
  | none => throw .undecodable

def writeText (path text : Text) : Act World Unit :=
  editAt path (·.write path (Utf8.encode text))

def appendText (path text : Text) : Act World Unit :=
  editAt path (·.append path (Utf8.encode text))

/-- Makes a folder and the folders on the way to it. -/
def ensureFolders (path : Path) : Act World Unit := do
  if path.text.contains '\x00' then throw .nullInPath
  let (files, result) := (← get).files.ensureFolders path.root path.parts.reverse
  modify fun world => { world with files }
  match result with
  | .ok () => return ()
  | .error (problem, place) => throw (.file problem place)

/-- The whole seconds of the clock, toward the start of 1970. -/
def now (world : World) : Int :=
  let seconds := world.clock.toInt
  if seconds < 0 && 0 < world.thousandths then seconds + 1 else seconds

def enter (path : Text) : Act World Unit := editAt path (·.enter path)

def here (world : World) : Text := world.files.hereText

def launch (start : Launch) : Act World Outcome := do
  modify fun world => { world with launches := start :: world.launches }
  let world ← get
  return world.outcome world.launches

/-- Asks for a manual page: what comes of it, and the page. -/
def askManual (request : ManualRequest) : Act World (Outcome × Text) := do
  modify fun world => { world with requests := request :: world.requests }
  let world ← get
  return world.manual world.requests

/-- Takes the next line of standard input, if there is one. -/
def takeLine : Act World (Option Text) := do
  let world ← get
  if world.input.isEmpty then
    if world.inputBreaks then throw .interrupted else return none
  else
    let (line, rest) := Text.takeLine world.input
    set { world with input := rest }
    return some line

def takeInput : Act World Text := do
  let world ← get
  set { world with input := [] }
  return world.input

/-- The home folder of the process: where the user's files are kept. -/
def homeText? (world : World) : Option Text :=
  (world.environment.get? "HOME").map fun home =>
    let trimmed := (home.reverse.dropWhile (· = '/')).reverse
    if trimmed.isEmpty then "/" else trimmed

/-- The name of the user, as the first variable says that is set to one. -/
def userName (world : World) : Text :=
  let named := [("LOGNAME" : Text), "USER", "LNAME", "USERNAME"].findSome? fun key =>
    (world.environment.get? key).filter fun name => !name.isEmpty
  named.getD ((world.environment.get? "USER").getD "user")

end World

end CommandShell
