import CommandShell.Shell
import CommandShell.Text.Printable

/-!
What keys do. A key changes the line, the pager or the walk through the history; some keys also ask
for something that is not the editor's to do, such as carrying out the line.
-/

namespace CommandShell

/-- What a key asks for besides editing. -/
inductive Request
  | submit (line : Text)
  | clearScreen
  | interrupt
  deriving DecidableEq, Repr

namespace Shell

def buffer (shell : Shell) : LineBuffer := shell.editor.buffer

/-- Opens the pager with all ways to complete the word at the cursor. -/
def complete : Act Shell Unit := do
  let shell ← get
  let (flags, pager) ← inWorld (Completion.complete shell.flags shell.buffer.text
    shell.buffer.cursor shell.session.current shell.session.environment)
  modify fun shell => { shell with flags }
  changePager fun _ => pager

def refreshPager : Act Shell Unit := do
  if (← get).session.pager.active then complete

/-- Changes the line and ends the walk through the history. -/
def edit (change : LineBuffer → LineBuffer) : Act Shell Unit :=
  changeEditor (·.edit change)

/-- Closes the pager, whose filter is the text before the cursor, and moves the cursor. -/
def move (change : LineBuffer → LineBuffer) : Act Shell Unit := do
  closePager
  changeEditor (·.move change)

/-- Takes the suggestion or moves the cursor on. -/
def acceptOrMove : Act Shell Unit := do
  closePager
  let history := (← get).session.history
  changeEditor (·.acceptOrMove history)

def expandAbbreviation : Act Shell Unit := do
  let shell ← get
  let (text, cursor) ← Act.ofExcept
    (shell.session.abbreviations.expandAt shell.buffer.text shell.buffer.cursor)
  changeEditor (·.move fun _ => .place text cursor)

/-- The line that is entered: without an abbreviation at its end. -/
def enteredLine (line : Text) : Act Shell Text := do
  if line.isEmpty then return line
  let shell ← get
  let (line, _) ← Act.ofExcept (shell.session.abbreviations.expandAt line line.length)
  let (history, added) ← inWorld (liftM (shell.session.history.add line none))
  changeSession fun session => { session with history }
  discard (Act.ofExcept added)
  return line

/-- Takes the selected candidate into the line, or enters the line. -/
def enter : Act Shell (Option Request) := do
  let shell ← get
  match shell.session.pager.current? with
  | some candidate =>
    changeEditor (·.move fun buffer =>
      buffer.replaceBefore shell.session.pager.filter.length candidate.value)
    closePager
    return none
  | none =>
    let line ← enteredLine shell.buffer.text
    changeEditor fun editor => { editor with buffer := {} }.stay
    return some (.submit line)

/-- Ends the session on an empty line; else closes the pager, or removes a character. -/
def endOrDelete : Act Shell Unit := do
  let shell ← get
  if shell.session.pager.active then closePager
  else if shell.buffer.text.isEmpty then
    changeSession fun session => { session with running := false }
  else edit .deleteForward

def typeChar (c : Char) : Act Shell (Option Request) := do
  let done (act : Act Shell Unit) : Act Shell (Option Request) := do act; return none
  match c with
  | '\t' => done do
    if (← get).session.pager.active then changePager .next else complete
  | '\x01' => done (move .moveHome)
  | '\x05' => done (move .moveEnd)
  | '\x02' => done (move .moveLeft)
  | '\x06' => done acceptOrMove
  | '\x17' => done do edit .killWord; closePager
  | '\x15' => done do edit .killLine; closePager
  | '\x0b' => done do edit .killToEnd; closePager
  | '\x0c' => return some .clearScreen
  | '\x03' =>
    changeEditor fun editor => { editor with buffer := {} }.stay
    closePager
    return some .interrupt
  | '\x04' => done endOrDelete
  | '\x7f' | '\x08' => done do edit .deleteBack; refreshPager
  | ' ' => done do
    expandAbbreviation
    edit (·.insert [' '])
    closePager
  | '\r' | '\n' => enter
  | c =>
    if Text.isPrintable c then done do edit (·.insert [c]); refreshPager
    else return none

def press (key : Key) : Act Shell (Option Request) := do
  let done (act : Act Shell Unit) : Act Shell (Option Request) := do act; return none
  match key with
  | .char c => typeChar c
  | .cancel => done closePager
  | .altEnter => done (edit (·.insert ['\n']))
  | .up => done do
    let session := (← get).session
    if session.pager.active then changePager .previous
    else changeEditor (·.older session.history)
  | .down => done do
    let session := (← get).session
    if session.pager.active then changePager .next
    else changeEditor (·.newer session.history)
  | .right => done acceptOrMove
  | .left => done (move .moveLeft)
  | .shiftTab => done (changePager .previous)
  | .delete => done do closePager; edit .deleteForward

/-- Handles pressed keys one after the other, each with what it asks for. -/
def pressAll (serve : Request → Act Shell Unit) : List Key → Act Shell Unit
  | [] => return ()
  | key :: rest => do
    match ← press key with
    | some request => serve request
    | none => pure ()
    pressAll serve rest

def feed (serve : Request → Act Shell Unit) : Text → Act Shell Unit
  | [] => return ()
  | c :: rest => do
    let (decoder, keys) := (← get).editor.decoder.feed c
    changeEditor fun editor => { editor with decoder }
    pressAll serve keys
    feed serve rest

end Shell

end CommandShell
