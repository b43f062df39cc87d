import CommandShell.App

/-!
The program. Its own files are taken from the home folder before the shell runs and written back
after it. Programs cannot be started from here: each start is refused as if there were no such
program.
-/

namespace CommandShell

/-- The variables of the environment that the shell looks at. -/
def environmentKeys : List String :=
  ["HOME", "PATH", "LOGNAME", "USER", "LNAME", "USERNAME", "WSH_HIGHLIGHTER", "WSH_LOG_LEVEL"]

def takeEnvironment : IO (Table Text) := do
  let mut table : Table Text := []
  for key in environmentKeys do
    if let some value ← IO.getEnv key then
      table := table.set key value
  return table

def keptFiles (settings : Settings) : List Path :=
  [settings.file, settings.abbreviationFile, settings.historyFile, settings.journalFile]

/-- The content of a file, if it can be read. -/
def takeFile (path : Path) : IO (Option Bytes) := do
  try
    return some (← IO.FS.readBinFile (String.ofList path.text)).toList
  catch _ => return none

/-- Writes a file and makes the folders on the way to it. -/
def keepFile (path : Path) (content : Bytes) : IO Unit := do
  IO.FS.createDirAll (String.ofList path.parent.text)
  IO.FS.writeBinFile (String.ofList path.text) ⟨content.toArray⟩

def takeWorld (settings : Settings) (environment : Table Text) (readsInput : Bool) : IO World := do
  let here := (← IO.currentDir).toString.toList
  let mut files := Files.plant {} (Path.partsOf here) (.folder false)
  files := (files.enter here).toOption.getD files
  for path in keptFiles settings do
    if let some content ← takeFile path then
      files := files.plant (Path.partsOf path.text) (.file content .plain)
  let input ← if readsInput then (← IO.getStdin).readToEnd else pure ""
  let now ← IO.monoMsNow
  return {
    files, environment
    clock := .ofNat (now / 1000)
    thousandths := now % 1000
    input := Text.plainBreaks input.toList
    outcome := fun _ => .refused .notFound
    manual := fun _ => (.refused .notFound, []) }

/-- Writes back the kept files that have changed. -/
def keepWorld (settings : Settings) (before after : World) : IO Unit := do
  for path in keptFiles settings do
    if let .ok content := after.files.read path.text then
      if (before.files.read path.text).toOption ≠ some content then keepFile path content

def exitCode : Ending → UInt32
  | .status code => UInt32.ofNat (code % 256).toNat
  | .left code => UInt32.ofNat code
  | .fault _ => 1

end CommandShell

open CommandShell in
def main (arguments : List String) : IO UInt32 := do
  let environment ← takeEnvironment
  let home := (environment.get? "HOME").getD "/"
  let settings : Settings := { home := Path.ofText home }
  let arguments := arguments.map String.toList
  let readsInput := match Options.read arguments with
    | .ok options => !options.version && !options.reload && options.task = .session
    | .error _ => false
  let world ← takeWorld settings environment readsInput
  let (settings, _) := (settings.load.run world).1
  let (report, after) := (App.follow settings 120 arguments).run world
  keepWorld settings world after
  IO.print (String.ofList report.out)
  IO.eprint (String.ofList report.err)
  if let .fault fault := report.ending then
    IO.eprintln (String.ofList fault.message)
  return exitCode report.ending
