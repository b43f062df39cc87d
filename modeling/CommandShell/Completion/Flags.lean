import CommandShell.World
import CommandShell.Text.Blank

/-!
The flags of commands, read from their manual pages. What was read is kept in a file for the next
session and in memory for this one.
-/

namespace CommandShell

/-- Flags as a manual page lists them together, and what they do. -/
structure FlagRow where
  flags : Text
  description : Text
  deriving DecidableEq, Repr

/-- The folder of the files, and what was read in this session. -/
structure FlagCache where
  folder : Path
  rows : Table (List FlagRow) := []

namespace FlagCache

/-- The part of the shell that messages about flags come from. -/
def source : Text := "wsh.completion"

/-- The text without characters struck over: each backspace takes the character before it away,
unless that ends a line. -/
def withoutOverstrike : Text → Text
  | [] => []
  | [c] => [c]
  | c :: d :: rest =>
    if d = '\x08' ∧ c ≠ '\n' then withoutOverstrike rest else c :: withoutOverstrike (d :: rest)

/-- What is said of flags whose description is empty. -/
def describe (description : Text) : Text := if description.isEmpty then "Flag" else description

/-- The row of a line of a manual page that starts with a flag. Two spaces end the flags. -/
def rowOfLine? (line : Text) : Option FlagRow :=
  let line := Text.trim line
  if line.head? = some '-' then
    match Text.partition? "  " line with
    | some (flags, description) => some ⟨Text.trim flags, describe (Text.trim description)⟩
    | none => some ⟨Text.trim line, describe []⟩
  else none

def rowsOfPage (page : Text) : List FlagRow :=
  (Text.lines (withoutOverstrike page)).filterMap rowOfLine?

def lineOfRow (row : FlagRow) : Text := row.flags ++ '|' :: row.description ++ ['\n']

def rowOfFileLine? (line : Text) : Option FlagRow :=
  let (flags, description) := (Text.partition? "|" line).getD (line, [])
  if flags.isEmpty then none else some ⟨flags, describe description⟩

def fileOf (cache : FlagCache) (command : Text) : Path := cache.folder.child (command ++ ".comp")

/-- The rows in a file; none if it cannot be read. -/
def readFile (file : Path) : Act World (List FlagRow) := do
  match ← Act.attempt (World.readLossy file.text) with
  | .ok content => return (Text.lines content).filterMap rowOfFileLine?
  | .error fault =>
    if fault.isFile then
      World.note .warning source
        ("could not read completion cache " ++ file.text ++ ": " ++ fault.message)
      return []
    else throw fault

def writeFile (file : Path) (rows : List FlagRow) : Act World Unit := do
  let written ← Act.attempt do
    World.ensureFolders file.parent
    World.writeText file.text (rows.flatMap lineOfRow)
  match written with
  | .ok () => return ()
  | .error fault =>
    if fault.isFile then
      World.note .warning source
        ("could not write completion cache " ++ file.text ++ ": " ++ fault.message)
    else throw fault

/-- The rows of the manual page of a command. A missing manual program and a manual that breaks off
count as an empty page. -/
def readManual (command : Text) : Act World (List FlagRow) := do
  let failed (reason : Text) : Act World (List FlagRow) := do
    World.note .debug source ("man page lookup for " ++ command ++ " failed: " ++ reason)
    return []
  match ← World.askManual ⟨command, "cat", "120"⟩ with
  | (.code 0, page) => return rowsOfPage page
  | (.code _, _) => return []
  | (.refused .notFound, _) => failed (Fault.file .notFound "man").message
  | (.refused problem, _) => throw (.file problem "man")
  | (.broken reason, _) => failed reason
  | (.fault fault, _) => throw fault

/-- The rows of a command, from memory, from its file or from its manual page. -/
def rowsOf (cache : FlagCache) (command : Text) : Act World (FlagCache × List FlagRow) := do
  if command.isEmpty || command.contains '/' then return (cache, [])
  match cache.rows.get? command with
  | some rows => return (cache, rows)
  | none =>
    let file := cache.fileOf command
    let rows ← do
      if ← World.occupied file.text then readFile file
      else
        let rows ← readManual command
        if !rows.isEmpty then writeFile file rows
        pure rows
    return ({ cache with rows := cache.rows.set command rows }, rows)

end FlagCache

end CommandShell
