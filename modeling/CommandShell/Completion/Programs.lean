import CommandShell.Files.Walk
import CommandShell.Table

/-!
The programs on the search path.
-/

namespace CommandShell

abbrev Environment := Table Text

namespace Environment

/-- The folders of the search path; empty elements are left out. -/
def searchPath (environment : Environment) : List Text :=
  (Text.splitOn ':' ((environment.get? "PATH").getD [])).filter (!·.isEmpty)

end Environment

namespace Files

/-- The entries of a folder by its path; none when the folder cannot be listed. -/
def listed (files : Files) (folder : Text) : Except Fault (List (Text × Node)) :=
  if folder.contains '\x00' then .error .nullInPath
  else match files.list folder with
    | .ok (_, entries) => .ok entries
    | .error _ => .ok []

/-- The names of the programs in a folder that start with a text. -/
def programsIn (files : Files) (front : Text) (folder : Text) : Except Fault (List Text) := do
  let entries ← files.listed folder
  return entries.filterMap fun (name, node) =>
    if front.isPrefixOf name && files.entryIsProgram folder name node then some name else none

/-- The names of the programs in folders that start with a text, each once, folder by folder. -/
def programs (files : Files) (front : Text) (folders : List Text) : Except Fault (List Text) := do
  let found ← folders.mapM (files.programsIn front)
  return found.flatten.eraseDups

end Files

end CommandShell
