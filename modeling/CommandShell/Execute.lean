import CommandShell.CloseMatch
import CommandShell.Program
import CommandShell.Shell

/-!
Carrying out a line. Each pipeline runs the first of its commands, a builtin or a program; the shell
keeps the status of the latest one. A fault ends the line, not the shell.
-/

namespace CommandShell.Shell

/-- How a builtin ends: with a status, or because it was called wrongly. -/
inductive Reply
  | status (code : Int)
  | misuse (usage : Text)
  deriving DecidableEq, Repr

/-- The status of a command that was called wrongly or cannot be read. -/
def usageCode : Int := 2

/-- The status of a line that the user broke off. -/
def interruptedCode : Int := 130

/-- The part of the shell that messages about lines come from. -/
def source : Text := "wsh.commands.executor"

/-- Ends the session, with the status given or the latest one. -/
def runExit (arguments : List Text) : Act Shell Reply := do
  let misuse := Reply.misuse "exit [CODE]"
  let leave (code : Int) : Act Shell Reply := do
    changeSession fun session => { session with running := false }
    return .status code
  match arguments with
  | [] => leave (← get).session.lastCode
  | [code] =>
    match Text.integer? code with
    | some code => leave code
    | none => return misuse
  | _ => return misuse

def changeFolder (arguments : List Text) (target : Text) : Act Shell Reply := do
  let left := (← get).session.current
  match ← Act.attempt (inWorld (World.enter target)) with
  | .ok () =>
    let world := (← get).world
    changeSession fun session => { session with previous := some left }.followProcess world
    return .status 0
  | .error fault =>
    if fault.isFile then
      display (.error (Text.join " " ("cd" :: arguments)) ("cd: " ++ fault.message))
      return .status 1
    else throw fault

/-- Enters the folder given, the previous one or the home folder. -/
def runCd (arguments : List Text) : Act Shell Reply := do
  let shell ← get
  match arguments with
  | [] => changeFolder arguments (← Act.ofExcept (shell.session.home shell.world))
  | [['-']] =>
    match shell.session.previous with
    | some (c :: previous) => changeFolder arguments (c :: previous)
    | _ =>
      display (.error "cd -" "cd: no previous directory")
      return .status 1
  | [path] => changeFolder arguments (← Act.ofExcept (shell.session.expandPath shell.world path))
  | _ => return .misuse "cd [DIRECTORY | -]"

/-- Shows the environment, or sets a variable to words. -/
def runSet (arguments : List Text) : Act Shell Reply := do
  if arguments.isEmpty then
    display (.environment (← get).session.environment.sorted)
    return .status 0
  let arguments := match arguments with
    | ['-', 'U'] :: rest => rest
    | _ => arguments
  match arguments with
  | name :: value :: values =>
    changeSession fun session =>
      { session with environment := session.environment.set name (Text.join " " (value :: values)) }
    return .status 0
  | _ => return .misuse "set [-U] KEY VALUE"

/-- The variables that arguments of the form `KEY=VALUE` set. -/
def assignments? (arguments : List Text) : Option (List (Text × Text)) :=
  arguments.mapM fun argument =>
    match Text.partition? "=" argument with
    | some (c :: name, value) => some (c :: name, value)
    | _ => none

def runExport (arguments : List Text) : Act Shell Reply := do
  if arguments.isEmpty then
    display (.environment (← get).session.environment.sorted)
    return .status 0
  match assignments? arguments with
  | none => return .misuse "export KEY=VALUE..."
  | some assigned =>
    changeSession fun session =>
      { session with environment := session.environment.overlay assigned }
    return .status 0

def runUnset (arguments : List Text) : Act Shell Reply := do
  if arguments.isEmpty then return .misuse "unset KEY..."
  let environment := (← get).session.environment
  changeSession fun session =>
    { session with environment := arguments.foldl Table.erase session.environment }
  return .status (if arguments.any environment.has then 0 else 1)

/-- Shows the abbreviations, or changes them and writes them to their file. -/
def runAbbr (arguments : List Text) : Act Shell Reply := do
  let table := (← get).session.abbreviations
  let keep (table : Abbreviations) : Act Shell Unit :=
    changeSession fun session => { session with abbreviations := table }
  match arguments with
  | [] =>
    display (.abbreviations table.items)
    return .status 0
  | ['-', 'a'] :: word :: part :: parts =>
    let table := table.add word (.text (Text.join " " (part :: parts)))
    keep table
    inWorld table.save
    return .status 0
  | [['-', 'e'], word] =>
    let (table, removed) := table.remove word
    keep table
    if removed then
      inWorld table.save
      return .status 0
    else
      display (.error (Text.join " " ("abbr" :: arguments))
        ("abbr: no abbreviation named '" ++ word ++ "'"))
      return .status 1
  | _ => return .misuse "abbr [-a KEY EXPANSION... | -e KEY]"

def runHistory (arguments : List Text) : Act Shell Reply := do
  if arguments.isEmpty then
    display (.history (← get).session.history.entries)
    return .status 0
  else return .misuse "history"

/-- Puts its arguments, or all of standard input, into the clipboard. -/
def runCopy (arguments : List Text) : Act Shell Reply := do
  let text ← if arguments.isEmpty then inWorld World.takeInput else pure (Text.join " " arguments)
  match (← get).world.clipboard with
  | .broken reason =>
    display (.error "pbcopy" ("pbcopy: " ++ reason))
    return .status 1
  | .holding _ =>
    modify fun shell => { shell with world := { shell.world with clipboard := .holding text } }
    return .status 0

def runPaste : Act Shell Reply := do
  match (← get).world.clipboard with
  | .broken reason =>
    display (.error "pbpaste" ("pbpaste: " ++ reason))
    return .status 1
  | .holding text =>
    display (.output text)
    return .status 0

def runBuiltin (builtin : Builtin) (arguments : List Text) : Act Shell Reply :=
  match builtin with
  | .abbr => runAbbr arguments
  | .cd => runCd arguments
  | .exit => runExit arguments
  | .export => runExport arguments
  | .history => runHistory arguments
  | .pbcopy => runCopy arguments
  | .pbpaste => runPaste
  | .pwd => do
    display (.output (← get).session.current)
    return .status 0
  | .set => runSet arguments
  | .unset => runUnset arguments

/-- Names of builtins and programs that are close to a name. -/
def alternatives (shell : Shell) (name : Text) : Except Fault (List Text) := do
  if name.isEmpty then return []
  let programs ← shell.world.files.programs [] shell.session.environment.searchPath
  return CloseMatch.closest name (Text.sort (Builtin.names ++ programs).eraseDups)

def runProgram (name : Text) (arguments : List Text) : Act Shell Int := do
  let shell ← get
  let code ← inWorld (Program.run shell.settings shell.session.environment
    (some shell.session.current) name arguments)
  if code = Program.notFoundCode then
    note .debug source ("command not found: " ++ name)
    let suggestions ← Act.ofExcept ((← get).alternatives name)
    display (.commandNotFound (Text.join " " (name :: arguments)) name suggestions)
  return code

def runCommand (command : Command) : Act Shell Int := do
  match Builtin.ofName? command.program with
  | none => runProgram command.program command.arguments
  | some builtin =>
    match ← runBuiltin builtin command.arguments with
    | .status code => return code
    | .misuse usage =>
      display (.usage (Text.join " " command.words) usage)
      return usageCode

def redirectText (redirect : Redirect) : Text := redirect.mode.symbol ++ redirect.target

/-- Says in the journal what of a pipeline is not carried out. -/
def notePipeline (pipeline : Pipeline) : Act Shell Unit := do
  let head := Text.quoted pipeline.head.program
  unless pipeline.later.isEmpty do
    note .info source ("pipe wiring unavailable, running only " ++ head ++ " of " ++
      Text.ofNat pipeline.commands.length ++ " stages")
  for command in pipeline.commands do
    unless command.redirects.isEmpty do
      note .info source ("redirects for " ++ Text.quoted command.program ++ " not applied: " ++
        Text.join ", " (command.redirects.map redirectText))
  if pipeline.background then
    note .info source
      ("background execution unavailable, running " ++ head ++ " in the foreground")

/-- Carries out the first command of a pipeline. -/
def runPipeline (pipeline : Pipeline) : Act Shell Int := do
  notePipeline pipeline
  runCommand pipeline.head

/-- Carries out pipelines one after the other while the session runs. -/
def runPipelines : List Pipeline → Act Shell Unit
  | [] => return ()
  | pipeline :: rest => do
    if (← get).session.running then
      let code ← runPipeline pipeline
      changeSession fun session => { session with lastCode := code }
      runPipelines rest

def setCode (code : Int) : Act Shell Unit :=
  changeSession fun session => { session with lastCode := code }

/-- Says in the journal what fitted nowhere in a line. -/
def noteDiagnostics (line : Text) (diagnostics : List Diagnostic) : Act Shell Unit := do
  for diagnostic in diagnostics do
    note .debug "wsh.core.parser" ("parse diagnostic at " ++ Text.ofNat diagnostic.position ++
      ": " ++ diagnostic.misfit.message)
  for diagnostic in diagnostics do
    note .warning source (Text.quoted line ++ ": " ++ diagnostic.misfit.message ++ " (column " ++
      Text.ofNat (diagnostic.position + 1) ++ ")")

/-- Carries out a line and gives the status after it. -/
def execute (line : Text) : Act Shell Int := do
  unless (Text.trim line).isEmpty do
    match Job.ofLine line with
    | .error unclosed =>
      display (.error line unclosed.message)
      setCode usageCode
    | .ok job =>
      noteDiagnostics line job.diagnostics
      match ← Act.attempt (runPipelines job.pipelines) with
      | .ok () => pure ()
      | .error fault =>
        if fault.isFailure then
          note .error source ("error while executing " ++ Text.quoted line)
          display (.error line ("Error: " ++ fault.message))
          setCode 1
        else
          display .interrupt
          setCode interruptedCode
  return (← get).session.lastCode

end CommandShell.Shell
