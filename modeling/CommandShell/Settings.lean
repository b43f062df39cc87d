import CommandShell.Abbreviations
import CommandShell.Text.Lowercase
import CommandShell.Text.Uppercase

/-!
The settings of the shell. They start from fixed values, and a JSON file in the home folder can
replace most of them one by one. A setting is taken from the file as it is, whatever kind of value
it has, unless the shell needs a list or a record there.
-/

namespace CommandShell

/-- The style of a panel: one of the fixed ones, which differ in the colour of the border, or a
value from the settings file. -/
inductive PanelChoice
  | standard (border : Text)
  | given (value : Json)

namespace PanelChoice

/-- The style as it is written into the settings file. -/
def json : PanelChoice → Json
  | standard border =>
    .record [("border_style", .text border), ("padding", .list [.int 0, .int 1]),
      ("title_align", "left"), ("expand", .bool false)]
  | given value => value

end PanelChoice

/-- The settings, and the home folder under which the shell keeps its files. -/
structure Settings where
  home : Path
  welcomeMessage : Json := "Welcome to wsh"
  showBanner : Json := .bool true
  logLevel : Json := "WARNING"
  historyLimit : Json := .int 1000
  programSuffixes : List Json := [".exe", ".cmd", ".bat"]
  scriptSuffixes : List Json := [".cmd", ".bat"]
  interpreter : List Json := ["cmd.exe", "/c"]
  keywords : List Json :=
    ["if", "else", "end", "for", "in", "while", "function", "return", "and", "or", "not", "begin",
     "switch", "case"]
  abbreviations : Table Json := []
  pollTimeout : Json := .float (.ofDecimal false 5 (-2))
  pagerRows : Json := .int 5
  promptStyles : Table Json :=
    [("user", "#a6d189 bold"), ("separator", "#737994"), ("path", "#8caaee bold"),
     ("prompt_symbol", "#f2d5cf bold"), ("suggestion", "#737994"), ("pager_item", "#c6d0f5"),
     ("pager_selected", "reverse bold"), ("pager_description", "#737994 italic")]
  panelStyles : Table PanelChoice :=
    [("default", .standard "#888888"), ("info", .standard "#8caaee"),
     ("success", .standard "#a6d189"), ("error", .standard "#e78284"),
     ("warning", .standard "#e5c890")]
  highlighting : Json := .bool true
  highlightStyles : Table Json :=
    [("command.valid", "bold #a6d189"), ("command.invalid", "bold #e78284"),
     ("keyword", "bold #ca9ee6"), ("operator", "#ef9f76"), ("option", "#81c8be"),
     ("string", "#e5c890"), ("variable", "#f4b8e4"), ("path", "underline")]
  manualTimeout : Json := .int 5

namespace Settings

/-- The folder of the shell's own files. -/
def folder (settings : Settings) : Path := settings.home.child ".wsh"

def file (settings : Settings) : Path := settings.folder.child "config.json"

def journalFile (settings : Settings) : Path := settings.folder.child "shell.log"

def abbreviationFile (settings : Settings) : Path := settings.folder.child "abbreviations.json"

def historyFile (settings : Settings) : Path :=
  (((settings.home.child ".local").child "share").child "wsh").child "wsh_history"

def flagFolder (settings : Settings) : Path :=
  (((settings.home.child ".local").child "state").child "wsh").child "completions"

/-- The keys and what they do, as the welcome shows them. -/
def keyHelp : List (Text × Text) :=
  [("Tab", "Complete / next candidate"), ("Shift+Tab", "Previous candidate"),
   ("Ctrl+F", "Accept suggestion"), ("Ctrl+W", "Delete word"), ("Ctrl+U", "Delete line"),
   ("Ctrl+K", "Delete to end of line"), ("Ctrl+L", "Clear screen"),
   ("Ctrl+D", "Exit on empty line")]

/-- The values as a set, each once. Lists and records cannot be in a set. -/
def distinct : List Json → Except Fault (List Json)
  | [] => .ok []
  | .list _ :: _ => .error (.wrongKind "unhashable type: 'list'")
  | .record _ :: _ => .error (.wrongKind "unhashable type: 'dict'")
  | value :: rest => do
    let rest ← distinct rest
    return value :: rest.filter fun other => !other.isAmong [value]

/-- The settings with those that come before the keywords taken from the value of a file. -/
def takeGeneral (settings : Settings) (data : Json) : Settings :=
  let taken (path : List Text) (old : Json) : Json := (data.at? path).getD old
  let takenList (path : List Text) (old : List Json) : List Json :=
    ((data.at? path).bind Json.list?).getD old
  let interpreter := takenList ["shell", "command_interpreter"] settings.interpreter
  { settings with
    welcomeMessage := taken ["general", "welcome_message"] settings.welcomeMessage
    showBanner := taken ["general", "show_startup_banner"] settings.showBanner
    logLevel := taken ["general", "log_level"] settings.logLevel
    historyLimit := taken ["shell", "history_max_entries"] settings.historyLimit
    programSuffixes := takenList ["shell", "executable_suffixes"] settings.programSuffixes
    scriptSuffixes := takenList ["shell", "script_suffixes"] settings.scriptSuffixes
    interpreter := if interpreter.isEmpty then settings.interpreter else interpreter }

/-- The settings with those that come after the keywords taken from the value of a file. -/
def takeRest (settings : Settings) (data : Json) : Settings :=
  let taken (path : List Text) (old : Json) : Json := (data.at? path).getD old
  let takenRecord (path : List Text) : Option (Table Json) := (data.at? path).bind Json.record?
  { settings with
    abbreviations :=
      (takenRecord ["shell", "default_abbreviations"]).getD settings.abbreviations
    pollTimeout := taken ["ui", "input_poll_timeout"] settings.pollTimeout
    pagerRows := taken ["ui", "pager_max_visible"] settings.pagerRows
    promptStyles :=
      settings.promptStyles.overlay ((takenRecord ["ui", "prompt_styles"]).getD [])
    panelStyles :=
      settings.panelStyles.overlay (((takenRecord ["ui", "panel_styles"]).getD []).map
        fun (name, value) => (name, .given value))
    highlighting := taken ["ui", "highlighter_enabled"] settings.highlighting
    highlightStyles :=
      settings.highlightStyles.overlay ((takenRecord ["ui", "highlight_styles"]).getD [])
    manualTimeout := taken ["completion", "man_page_timeout"] settings.manualTimeout }

/-- The settings with the value of a file. Keywords that are no set end the work half done. -/
def take (settings : Settings) (data : Json) : Settings × Except Fault Unit :=
  let settings := settings.takeGeneral data
  match (data.at? ["shell", "keywords"]).bind Json.list? with
  | none => (settings.takeRest data, .ok ())
  | some keywords =>
    match distinct keywords with
    | .ok keywords => ({ settings with keywords }.takeRest data, .ok ())
    | .error fault => (settings, .error fault)

/-- The value in the settings file; none if there is no file or it cannot be read as JSON. -/
def readFile (settings : Settings) : Act World (Option Json) := do
  if ← World.occupied settings.file.text then
    match ← Act.attempt (World.readText settings.file.text) with
    | .error fault => if fault.isFile then return none else throw fault
    | .ok content =>
      match Json.read content with
      | .ok value => return some value
      | .error (.mistake _ _) => return none
      | .error .digits => throw .tooManyDigits
      | .error .nesting => throw .nesting
  else return none

/-- Loads the settings file over the settings. The answer says whether there was one to load. -/
def load (settings : Settings) : StateM World (Settings × Except Fault Bool) := do
  match ← settings.readFile.run with
  | .error fault => return (settings, .error fault)
  | .ok none => return (settings, .ok false)
  | .ok (some data) =>
    let (settings, result) := settings.take data
    return (settings, result.map fun () => true)

/-- The keywords in order, if they are all texts. -/
def sortedKeywords (settings : Settings) : Except Fault (List Text) :=
  match settings.keywords.mapM Json.text? with
  | some keywords => .ok (Text.sort keywords)
  | none => .error (.wrongKind "'<' not supported between instances of keywords")

def json (settings : Settings) : Except Fault Json := do
  let keywords ← settings.sortedKeywords
  return .record [
    ("general", .record [
      ("welcome_message", settings.welcomeMessage),
      ("show_startup_banner", settings.showBanner),
      ("log_level", settings.logLevel)]),
    ("shell", .record [
      ("history_max_entries", settings.historyLimit),
      ("executable_suffixes", .list settings.programSuffixes),
      ("script_suffixes", .list settings.scriptSuffixes),
      ("command_interpreter", .list settings.interpreter),
      ("keywords", .list (keywords.map Json.text)),
      ("default_abbreviations", .record settings.abbreviations)]),
    ("ui", .record [
      ("input_poll_timeout", settings.pollTimeout),
      ("pager_max_visible", settings.pagerRows),
      ("prompt_styles", .record settings.promptStyles),
      ("panel_styles", .record (settings.panelStyles.map fun (name, style) => (name, style.json))),
      ("highlighter_enabled", settings.highlighting),
      ("highlight_styles", .record settings.highlightStyles)]),
    ("completion", .record [
      ("man_page_timeout", settings.manualTimeout)])]

/-- Makes the folders of the shell, and its files where they are missing. -/
def ensureFiles (settings : Settings) : Act World Unit := do
  World.ensureFolders settings.folder
  World.ensureFolders settings.historyFile.parent
  World.ensureFolders settings.flagFolder
  unless ← World.occupied settings.file.text do
    let data ← Act.ofExcept settings.json
    match ← Act.attempt (World.writeText settings.file.text data.indented) with
    | .ok () => pure ()
    | .error fault => unless fault.isFile do throw fault
  unless ← World.occupied settings.abbreviationFile.text do
    World.writeText settings.abbreviationFile.text (Json.record settings.abbreviations).line

/-- Makes the missing files and loads the settings anew. The answer says whether the system allowed
it. -/
def reload (settings : Settings) : StateM World (Settings × Except Fault Bool) := do
  let (settings, result) ← do
    match ← settings.ensureFiles.run with
    | .error fault => pure (settings, Except.error fault)
    | .ok () => settings.load
  match result with
  | .ok _ => return (settings, .ok true)
  | .error fault =>
    if fault.isFile then return (settings, .ok false) else return (settings, .error fault)

/-- Whether lines are highlighted: as the environment says, else as the settings say. -/
def highlighter (settings : Settings) (environment : Table Text) : Json :=
  match (environment.get? "WSH_HIGHLIGHTER").map fun word => Text.lowercase (Text.trim word) with
  | none => settings.highlighting
  | some word =>
    if [("0" : Text), "false", "no", "off"].contains word then .bool false
    else if [("1" : Text), "true", "yes", "on"].contains word then .bool true
    else settings.highlighting

/-- The name of the level of the journal: as the environment says, else as the settings say. -/
def levelName (settings : Settings) (environment : Table Text) : Text :=
  match environment.get? "WSH_LOG_LEVEL" with
  | some (c :: word) => Text.uppercase (Text.trim (c :: word))
  | _ => Text.uppercase settings.logLevel.display

end Settings

end CommandShell
