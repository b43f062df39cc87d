import CommandShell.Execute
import CommandShell.Keyboard

/-!
Running the shell: at a terminal, where keys are taken one by one and the line is drawn after each,
or on lines that are carried out one after the other.
-/

namespace CommandShell

/-- What waiting for a terminal gives: characters, nothing yet, a failure, or the end of input. -/
inductive Arrival
  | chars (chars : Text)
  | nothing
  | failure
  | closed
  deriving DecidableEq, Repr

namespace Shell

/-- The part of the shell that messages about running come from. -/
def loopSource : Text := "wsh.core.repl"

def render : Act Shell Unit := do
  let shell ← get
  let folder ← Act.ofExcept (shell.session.shownFolder shell.world)
  let suggestion :=
    if shell.buffer.atEnd then shell.editor.suggestion? shell.session.history else none
  let spans ←
    if shell.highlighter.isSome then some <$> styleLine shell.around shell.buffer.text
    else pure none
  display (.line {
    folder, text := shell.buffer.text, cursor := shell.buffer.cursor, suggestion,
    pager := some shell.session.pager, spans })

/-- Work with the terminal in its usual mode. -/
def cooked (act : Act Shell Unit) : Act Shell Unit := do
  let mode := (← get).mode
  setMode .cooked
  let result ← Act.attempt act
  setMode mode
  Act.ofExcept result

def submit (line : Text) : Act Shell Unit := do
  display .finishLine
  unless line.isEmpty do cooked (discard (execute line))

def serve : Request → Act Shell Unit
  | .submit line => submit line
  | .clearScreen => display .clearScreen
  | .interrupt => display .interruptMark

/-- Takes characters and draws the line. A fault is shown and ends nothing. -/
def takeChars (chars : Text) : Act Shell Unit := do
  let result ← Act.attempt do
    feed serve chars
    if (← get).session.running then render
  match result with
  | .ok () => return ()
  | .error fault =>
    if fault.isFailure then
      note .error loopSource ("error while handling input " ++ Text.quoted chars)
      display .finishLine
      display (.error (← get).buffer.text ("Error: " ++ fault.message))
    else throw fault

/-- Shows the welcome, takes the terminal over and draws the first line. -/
def start : Act Shell Unit := do
  display .welcome
  setMode .raw
  render

/-- Takes what arrives. The answer says whether to wait for more. -/
def receive : Arrival → Act Shell Bool
  | .chars chars => do
    takeChars chars
    return (← get).session.running
  | .nothing => return true
  | .failure => do
    note .error loopSource "input wait failed, leaving the shell"
    return false
  | .closed => return false

/-- Gives the terminal back, says goodbye and gives the status of the shell. -/
def finish : Act Shell Int := do
  display .finishLine
  setMode .cooked
  display .goodbye
  return (← get).session.lastCode

/-- Takes arrivals while the session runs. The end of the list is the end of input. -/
def receiveAll : List Arrival → Act Shell Unit
  | [] => return ()
  | arrival :: rest => do
    if (← get).session.running then
      if ← receive arrival then receiveAll rest

/-- Runs the shell at a terminal, which is given back in any case. -/
def runTerminal (arrivals : List Arrival) : Act Shell Int := do
  let result ← Act.attempt do
    start
    receiveAll arrivals
    finish
  setMode .cooked
  Act.ofExcept result

/-- Carries out a line as it is read, without its line breaks. -/
def runLine (line : Text) : Act Shell Unit := do
  let line := (line.reverse.dropWhile (· = '\n')).reverse
  unless (Text.trim line).isEmpty do discard (execute line)

/-- Carries out lines while the session runs, and gives the status of the shell. -/
def runLines : List Text → Act Shell Int
  | [] => return (← get).session.lastCode
  | line :: rest => do
    if (← get).session.running then
      runLine line
      runLines rest
    else return (← get).session.lastCode

/-- Carries out the lines of standard input, at most so many, while the session runs. A line may
take more of the input for itself. -/
def runInputLines : (most : Nat) → Act Shell Int
  | 0 => return (← get).session.lastCode
  | most + 1 => do
    match ← inWorld World.takeLine with
    | none => return (← get).session.lastCode
    | some line =>
      if (← get).session.running then
        runLine line
        runInputLines most
      else return (← get).session.lastCode

/-- Carries out the lines of standard input. -/
def runInput : Act Shell Int := do
  runInputLines ((← get).world.input.length + 1)

end Shell

end CommandShell
