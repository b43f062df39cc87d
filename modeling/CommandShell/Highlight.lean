import CommandShell.Builtin
import CommandShell.Job
import CommandShell.Session

/-!
Which parts of a line get which style. Operators have one style; a word gets one by its place and by
what it names: a keyword, a command, an option, a variable, a quoted text or a path.
-/

namespace CommandShell

/-- A part of a line with a style from the settings. -/
structure Span where
  start : Nat
  stop : Nat
  style : Json

/-- Where a name is looked up: in the files of a world, from a folder and with an environment. -/
structure Surroundings where
  world : World
  environment : Environment
  current : Text

namespace Surroundings

/-- The path that a word names. -/
def pathOf (around : Surroundings) (word : Text) : Text :=
  let home := ((around.environment.get? "HOME").orElse fun () => around.world.homeText?).getD "~"
  let expanded := match word with
    | ['~'] => home
    | '~' :: '/' :: rest => home ++ '/' :: rest
    | word => word
  Path.join around.current expanded

/-- Whether a word names something that is there. -/
def hasPath (around : Surroundings) (word : Text) : Bool :=
  let path := around.pathOf word
  !word.isEmpty && !path.contains '\x00' && around.world.files.isThere path

/-- The search path as it is written. -/
def searchText (around : Surroundings) : Text := (around.environment.get? "PATH").getD []

/-- Whether a path leads to something that may be executed and is no folder. -/
def isProgram (around : Surroundings) (path : Text) : Bool :=
  !path.contains '\x00' && around.world.files.isRunnable path &&
    !around.world.files.isFolder path

/-- Whether a name is found as a program: by its path if it has a slash, else in a folder of the
search path. An empty element of the search path is the folder of the process. -/
def findsProgram (around : Surroundings) (name : Text) : Bool :=
  if name.contains '/' then
    let path := around.pathOf name
    !path.contains '\x00' && around.world.files.isFile path && around.world.files.isRunnable path
  else
    !around.searchText.isEmpty && (Text.splitOn ':' around.searchText).any fun folder =>
      around.isProgram (Path.join folder name)

end Surroundings

/-- What a lookup depends on: the name, the search path, and the folder if the name has a slash. -/
structure LookupKey where
  name : Text
  searchPath : Text
  folder : Text
  deriving DecidableEq, Repr

/-- Answers given before to the question whether a name is a program. -/
structure Lookups where
  known : List (LookupKey × Bool) := []

namespace Lookups

/-- The most answers that are remembered. -/
def limit : Nat := 256

/-- What the answer for a name depends on. -/
def keyOf (around : Surroundings) (name : Text) : LookupKey :=
  ⟨name, around.searchText, if name.contains '/' then around.current else []⟩

/-- Whether a name is a command, as far as possible from memory. -/
def isCommand (lookups : Lookups) (around : Surroundings) (name : Text) : Lookups × Bool :=
  if name.isEmpty then (lookups, false)
  else if (Builtin.ofName? name).isSome then (lookups, true)
  else
    let key := keyOf around name
    match lookups.known.lookup key with
    | some found => (lookups, found)
    | none =>
      let found := around.findsProgram name
      let kept := if lookups.known.length ≥ limit then [] else lookups.known
      (⟨(key, found) :: kept⟩, found)

/-- The style of a word that is not in command position. -/
def argumentStyle (around : Surroundings) (word : Text) : Option Text :=
  if word.head? = some '-' then some "option"
  else if word.head? = some '$' then some "variable"
  else if word.head? = some '\'' || word.head? = some '"' then some "string"
  else if around.hasPath (Word.meaning word) then some "path"
  else none

def commandStyle (lookups : Lookups) (settings : Settings) (around : Surroundings) (word : Text) :
    Lookups × Text :=
  if settings.keywords.any fun keyword => keyword.text? = some word then (lookups, "keyword")
  else
    let (lookups, found) := lookups.isCommand around (Word.meaning word)
    (lookups, if found then "command.valid" else "command.invalid")

/-- A span with the style that the settings have for a name; none if that style is empty. -/
def spanOf (settings : Settings) (start stop : Nat) (name : Text) : List Span :=
  match settings.highlightStyles.get? name with
  | some style => if style.isTrue && start < stop then [⟨start, stop, style⟩] else []
  | none => []

def spansOfTokens (settings : Settings) (around : Surroundings) :
    (inCommandPosition : Bool) → Lookups → List Token → Lookups × List Span
  | _, lookups, [] => (lookups, [])
  | inCommandPosition, lookups, token :: rest =>
    if token.kind = .word then
      let (lookups, style) :=
        if inCommandPosition then
          let (lookups, style) := lookups.commandStyle settings around token.text
          (lookups, some style)
        else (lookups, argumentStyle around token.text)
      let here := (style.map (spanOf settings token.start token.stop)).getD []
      let (lookups, later) := spansOfTokens settings around false lookups rest
      (lookups, here ++ later)
    else
      let here := spanOf settings token.start token.stop "operator"
      let (lookups, later) :=
        spansOfTokens settings around token.kind.isSeparator lookups rest
      (lookups, here ++ later)

/-- The spans of a line. What follows an unclosed quote is one string. -/
def spans (lookups : Lookups) (settings : Settings) (around : Surroundings) (line : Text) :
    Lookups × List Span :=
  let scan := Scan.ofLine line
  let (lookups, found) := spansOfTokens settings around true lookups scan.tokens
  match scan.unclosed with
  | none => (lookups, found)
  | some unclosed =>
    (lookups, found ++ spanOf settings unclosed.position line.length "string")

end Lookups

end CommandShell
