import CommandShell.Builtin
import CommandShell.Completion.Flags
import CommandShell.Completion.Programs
import CommandShell.CursorWord
import CommandShell.Pager

/-!
Ways to complete the word at the cursor. A word with a slash is a path; the first word of a line is
a command or a path; later words are flags or paths.
-/

namespace CommandShell.Completion

/-- Whether a word that ends at the cursor is the first word of the line. -/
def isCommandPosition (line : Text) (cursor : Int) (word : Text) : Bool :=
  (Text.trim (Text.before (cursor - word.length) line)).isEmpty

/-- The candidate of an entry of a folder. A folder goes on with a slash. -/
def entryCandidate (files : Files) (folder lead : Text) (entry : Text × Node) : Candidate :=
  if files.entryIsFolder folder entry.1 entry.2 then
    ⟨entry.1 ++ "/", lead ++ entry.1 ++ "/", some "Directory"⟩
  else ⟨entry.1, lead ++ entry.1, some "File"⟩

/-- The entries of a folder whose names start with a text; hidden ones only when that starts with a
dot. The lead is put in front of the names. -/
def inFolder (files : Files) (folder : Path) (front lead : Text) :
    Except Fault (List Candidate) := do
  let entries ← files.listed folder.text
  let fitting := entries.filter fun (name, _) =>
    (name.head? ≠ some '.' || front.head? = some '.') && front.isPrefixOf name
  return fitting.map (entryCandidate files folder.text lead)

/-- A word up to its last slash, and the rest. -/
def cutAtSlash (word : Text) : Text × Text :=
  ((word.reverse.dropWhile (· ≠ '/')).reverse, (word.reverse.takeWhile (· ≠ '/')).reverse)

/-- The folder that a typed path without its last part names. -/
def folderOf (lead current : Text) (home : Option Text) : Path :=
  let lead := match lead, home with
    | '~' :: rest, some (c :: home) => c :: home ++ rest
    | lead, _ => lead
  (Path.ofText current).append (Path.ofText lead)

/-- The paths that a word can be completed to. -/
def paths (files : Files) (word current : Text) (home : Option Text) :
    Except Fault (List Candidate) :=
  match cutAtSlash word with
  | ([], front) => inFolder files (Path.ofText current) front []
  | (lead, front) => inFolder files (folderOf lead current home) front lead

/-- The commands that a word can be completed to: builtins, then programs. -/
def commands (files : Files) (word : Text) (environment : Environment) :
    Except Fault (List Candidate) := do
  let builtins := Builtin.names.filter word.isPrefixOf
  let programs ← files.programs word environment.searchPath
  return builtins.map (fun name => ⟨name, name, some "Builtin"⟩) ++
    (programs.filter fun name => !builtins.contains name).map fun name =>
      ⟨name, name, some "Command"⟩

/-- The flags in a row: the first word of each piece that starts with a hyphen. -/
def flagsOfRow (row : FlagRow) : List (Text × Text) :=
  (Text.splitAt ", " row.flags).filterMap fun piece =>
    match Text.words piece with
    | flag :: _ => if flag.head? = some '-' then some (flag, row.description) else none
    | [] => none

/-- The flags of rows that start with a word, each once with its first description. -/
def flagsOfRows (rows : List FlagRow) (word : Text) : List Candidate :=
  let fitting := (rows.flatMap flagsOfRow).filter fun (flag, _) => word.isPrefixOf flag
  let first := fitting.foldl (fun (seen : Table Text) (flag, description) =>
    if seen.has flag then seen else seen ++ [(flag, description)]) []
  first.map fun (flag, description) => ⟨flag, flag, some description⟩

/-- The flags of a command that a word can be completed to. -/
def flags (cache : FlagCache) (command word : Text) : Act World (FlagCache × List Candidate) := do
  let (cache, rows) ← cache.rowsOf command
  return (cache, flagsOfRows rows word)

/-- The word at the cursor and all ways to complete it. -/
def candidates (cache : FlagCache) (line : Text) (cursor : Int) (current : Text)
    (environment : Environment) : Act World (FlagCache × Text × List Candidate) := do
  let word ← Act.ofExcept (cursorWord line cursor)
  let pathsNow : Act World (List Candidate) := do
    Act.ofExcept (paths (← get).files word current (environment.get? "HOME"))
  if word.contains '/' then return (cache, word, ← pathsNow)
  if isCommandPosition line cursor word then
    let commands ← Act.ofExcept (commands (← get).files word environment)
    return (cache, word, commands ++ (← pathsNow))
  if word.head? = some '-' then
    match Text.words (Text.before cursor line) with
    | [] => throw .outOfRange
    | command :: _ =>
      let (cache, flags) ← flags cache command word
      return (cache, word, flags ++ (← pathsNow))
  return (cache, word, ← pathsNow)

/-- The pager with all ways to complete the word at the cursor. -/
def complete (cache : FlagCache) (line : Text) (cursor : Int) (current : Text)
    (environment : Environment) : Act World (FlagCache × Pager) := do
  let (cache, word, found) ← candidates cache line cursor current environment
  World.note .debug FlagCache.source ("completion for " ++ Text.quoted word ++ " produced " ++
    Text.ofNat found.length ++ " candidates")
  return (cache, .ofCandidates found word)

end CommandShell.Completion
