import CommandShell.Journal
import CommandShell.Loop
import CommandShell.Options

/-!
The program as it is called: it follows its command line, and it either says something about itself,
loads its settings anew, or runs the shell on a line or on standard input.
-/

namespace CommandShell

/-- How the program ends: with the status of its work, by leaving at once, or by a fault. -/
inductive Ending
  | status (code : Int)
  | left (code : Nat)
  | fault (fault : Fault)
  deriving DecidableEq, Repr

/-- What a run of the program gives: its ending, and what it writes. -/
structure Report where
  ending : Ending
  out : Text := []
  err : Text := []
  deriving DecidableEq, Repr

namespace App

def version : Text := "0.1.0"

/-- A new shell that draws without colours. -/
def newShell (settings : Settings) (width : Nat) : Act World Shell := do
  let session ← Session.create settings
  let world ← get
  return {
    world, settings, session
    screen := .drawn { coloured := false, width, user := world.userName }
    flags := { folder := settings.flagFolder } }

def work : Task → Act Shell Int
  | .line text => Shell.execute text
  | .session => Shell.runInput
  | .noLine => throw (.lacking "'list' object has no attribute 'strip'")

def drawn : Screen → Text
  | .record _ => []
  | .drawn canvas => canvas.written

/-- The report of work that ended. An interrupt says goodbye. -/
def report (result : Except Fault Int) (out : Text) : Report :=
  match result with
  | .ok code => { ending := .status code, out }
  | .error .interrupted => { ending := .status Shell.interruptedCode, out := out ++ "\nBye!\n" }
  | .error fault => { ending := .fault fault, out }

def runShell (settings : Settings) (width : Nat) (task : Task) : StateM World Report := do
  match ← (newShell settings width).run with
  | .error fault => return report (.error fault) []
  | .ok shell =>
    let world ← get
    let (result, shell) := (work task).on { shell with world }
    set shell.world
    return report result (drawn shell.screen)

/-- Makes the missing files, starts the journal and runs a shell. -/
def run (settings : Settings) (width : Nat) (task : Task) : StateM World Report := do
  let path := settings.journalFile.text
  let prepared : Act World (Bool × Nat) := do
    settings.ensureFiles
    let opened ← World.openJournal path
    return (opened, ← Act.ofExcept (Level.threshold (settings.levelName (← get).environment)))
  match ← prepared.run with
  | .error fault => return report (.error fault) []
  | .ok (opened, least) =>
    let report ← runShell settings width task
    if opened then discard (World.keepJournal path least).run
    return report

/-- Loads the settings anew and says whether that went well. -/
def reload (settings : Settings) : StateM World Report := do
  match (← settings.reload).2 with
  | .ok true => return { ending := .status 0, out := "Configuration reloaded successfully\n" }
  | .ok false => return { ending := .status 1, out := "Failed to reload configuration\n" }
  | .error fault => return report (.error fault) []

def follow (settings : Settings) (width : Nat) (arguments : List Text) : StateM World Report := do
  match Options.read arguments with
  | .error .help => return { ending := .left 0, out := Options.help }
  | .error (.misuse problem) => return { ending := .left 2, err := Options.misuse problem }
  | .ok options =>
    if options.version then
      return { ending := .status 0, out := "wsh version " ++ version ++ "\n" }
    else if options.reload then reload settings
    else run settings width options.task

end App

end CommandShell
