import CommandShell.World
import CommandShell.Text.Blank
import CommandShell.Text.Integer

/-!
The commands entered before. The newest ones are kept up to a limit, and each is added to a file of
records when it is entered. A record is a line with the command and a line with the time; a command
of several lines is written on one.
-/

namespace CommandShell

/-- A command and the time when it was entered. -/
structure Entry where
  command : Text
  time : Int := 0
  deriving DecidableEq, Repr

/-- Commands with the oldest first, at most so many, and the file where they are kept. -/
structure History where
  file : Option Path := none
  most : Nat := 1000
  most_pos : 0 < most := by decide
  entries : List Entry := []

namespace History

/-- A command on one line. -/
def escape (command : Text) : Text :=
  command.flatMap fun c => if c = '\\' then ['\\', '\\'] else if c = '\n' then ['\\', 'n'] else [c]

/-- The command written on one line. A backslash before another character stands for itself. -/
def unescape : Text → Text
  | [] => []
  | '\\' :: 'n' :: rest => '\n' :: unescape rest
  | '\\' :: '\\' :: rest => '\\' :: unescape rest
  | c :: rest => c :: unescape rest

/-- What the line of a command starts with. -/
def commandMark : Text := "- cmd: "

/-- What the line of a time starts with. -/
def timeMark : Text := "  when: "

/-- The part of the shell that messages about the history come from. -/
def source : Text := "wsh.core.history"

def commandLine (command : Text) : Text := commandMark ++ escape command ++ "\n"

/-- The line of a time, unless the time has too many digits to be written. -/
def timeLine? (time : Int) : Option Text :=
  (Text.ofInt? time).map fun digits => timeMark ++ digits ++ "\n"

/-- What is written for an entry: two lines, or only the first if the time cannot be written. -/
def record (entry : Entry) : Text := commandLine entry.command ++ (timeLine? entry.time).getD []

/-- A history without entries that keeps at least one. -/
def ofLimit (file : Option Path) (limit : Int) : History :=
  { file, most := max 1 limit.toNat, most_pos := by omega }

def last? (history : History) : Option Entry := history.entries.getLast?

/-- Adds an entry; the oldest one makes room for it. -/
def push (history : History) (entry : Entry) : History :=
  let kept :=
    if history.entries.length ≥ history.most then history.entries.drop 1 else history.entries
  { history with entries := kept ++ [entry] }

/-- Whether a command is worth an entry: it is not empty and not the same as the newest one. -/
def accepts (history : History) (command : Text) : Bool :=
  !command.isEmpty && (history.last?.map Entry.command) ≠ some command

def writeRecord (history : History) (entry : Entry) : Act World Unit := do
  match history.file with
  | none => return ()
  | some file =>
    let written ← Act.attempt do
      World.ensureFolders file.parent
      World.appendText file.text (record entry)
      if (timeLine? entry.time).isNone then throw .tooManyDigits
    match written with
    | .ok () => return ()
    | .error fault =>
      if fault.isFile then
        World.note .warning source
          ("could not write history to " ++ file.text ++ ": " ++ fault.message)
      else throw fault

/-- Enters a command at a time, or now. The answer says whether it got an entry. The entry stays when
a fault ended the writing of its record. -/
def add (history : History) (command : Text) (time : Option Int) :
    StateM World (History × Except Fault Bool) := do
  if history.accepts command then
    let entry : Entry := ⟨command, time.getD (← get).now⟩
    let written ← (writeRecord history entry).run
    return (history.push entry, written.map fun _ => true)
  else return (history, .ok false)

/-- The time that the text behind its mark gives: zero unless it is all digits. -/
def timeOf (raw : Text) : Except Fault Int :=
  let raw := Text.trim raw
  if !raw.isEmpty && raw.all Text.isDigit then
    match Text.natural? raw with
    | some time => .ok time
    | none => .error (.notNumber raw)
  else .ok 0

/-- Adds the entries of record lines. A command whose time does not follow gets the time zero, and a
time that cannot be read ends the reading. -/
def replay (history : History) (pending : Option Text) : List Text → History × Except Fault Unit
  | [] =>
    match pending with
    | none => (history, .ok ())
    | some command => (history.push ⟨command, 0⟩, .ok ())
  | line :: rest =>
    match Text.dropStart? commandMark line with
    | some raw =>
      let history := match pending with
        | none => history
        | some command => history.push ⟨command, 0⟩
      replay history (some (unescape raw)) rest
    | none =>
      match pending, Text.dropStart? timeMark line with
      | some command, some raw =>
        match timeOf raw with
        | .ok time => replay (history.push ⟨command, time⟩) none rest
        | .error fault => (history, .error fault)
      | _, _ => replay history pending rest

/-- Reads the entries from the file, in place of those there are. The history is as far as it was
read when a fault ended the reading. -/
def load (history : History) : StateM World (History × Except Fault Unit) := do
  let history := { history with entries := [] }
  match history.file with
  | none => return (history, .ok ())
  | some file =>
    let found ← (World.occupied file.text).run
    match found with
    | .error fault => return (history, .error fault)
    | .ok false => return (history, .ok ())
    | .ok true =>
      match ← (World.readLossy file.text).run with
      | .error fault =>
        if fault.isFile then
          discard (World.note .warning source
            ("could not read history from " ++ file.text ++ ": " ++ fault.message)).run
          return (history, .ok ())
        else return (history, .error fault)
      | .ok content =>
        let (history, result) := replay history none (Text.lines content)
        if result.toOption.isSome then
          discard (World.note .debug source ("loaded " ++ Text.ofNat history.entries.length ++
            " history entries from " ++ file.text)).run
        return (history, result)

/-- The newest command that goes on from a beginning that is not empty. -/
def suggestion? (history : History) (front : Text) : Option Text :=
  if front.isEmpty then none
  else (history.entries.reverse.find? fun entry =>
    front.isPrefixOf entry.command && entry.command ≠ front).map Entry.command

/-- The first entry, from an index on in steps, whose command has a beginning. At most `tries`
entries are looked at. -/
def seek (history : History) (front : Text) (step : Int) : (tries : Nat) → Int → Option Nat
  | 0, _ => none
  | tries + 1, index =>
    if index < 0 then none
    else match history.entries[index.toNat]? with
      | none => none
      | some entry =>
        if front.isPrefixOf entry.command then some index.toNat
        else seek history front step tries (index + step)

/-- The first entry, from an index on in steps, whose command has a beginning. -/
def find? (history : History) (front : Text) (start step : Int) : Option Nat :=
  history.seek front step history.entries.length start

/-- The entry at an index; a negative one counts from the newest. -/
def entryAt (history : History) (index : Int) : Except Fault Entry :=
  let place := if index < 0 then index + history.entries.length else index
  if place < 0 then .error .outOfRange
  else match history.entries[place.toNat]? with
    | some entry => .ok entry
    | none => .error .outOfRange

end History

end CommandShell
