import CommandShell.History
import CommandShell.Key
import CommandShell.LineBuffer

/-!
Editing a line. The editor holds the line, the decoder of the keys, and the place in the history
that the user has gone back to.
-/

namespace CommandShell

/-- The line being edited. While the user walks through the history, `position` is the entry shown,
or the number of entries before the first one is found, and `front` is the text that the walk
started from. -/
structure Editor where
  buffer : LineBuffer := {}
  decoder : Key.Decoder := {}
  position : Option Nat := none
  front : Text := []
  deriving DecidableEq, Repr

namespace Editor

/-- Ends the walk through the history. -/
def stay (editor : Editor) : Editor := { editor with position := none, front := [] }

/-- Changes the line and ends the walk through the history. -/
def edit (editor : Editor) (change : LineBuffer → LineBuffer) : Editor :=
  { editor with buffer := change editor.buffer }.stay

def move (editor : Editor) (change : LineBuffer → LineBuffer) : Editor :=
  { editor with buffer := change editor.buffer }

def showEntry (editor : Editor) (history : History) (index : Nat) : Editor :=
  match history.entries[index]? with
  | some entry => { editor with position := some index, buffer := .ofText entry.command }
  | none => editor

/-- Starts a walk through the history unless there is one. -/
def beginWalk (editor : Editor) (history : History) : Editor :=
  if editor.position.isSome then editor
  else { editor with position := some history.entries.length, front := editor.buffer.text }

/-- Goes back to the next older entry that starts with the text of the walk. -/
def older (editor : Editor) (history : History) : Editor :=
  let editor := editor.beginWalk history
  match history.find? editor.front ((editor.position.getD 0 : Int) - 1) (-1) with
  | some index => editor.showEntry history index
  | none => editor

/-- Goes on to the next newer entry that starts with the text of the walk, and behind the newest to
that text. -/
def newer (editor : Editor) (history : History) : Editor :=
  match editor.position with
  | none => editor
  | some position =>
    match history.find? editor.front (position + 1) 1 with
    | some index => editor.showEntry history index
    | none => { editor with buffer := .ofText editor.front }.stay

/-- The command from the history that goes on from the line. -/
def suggestion? (editor : Editor) (history : History) : Option Text :=
  history.suggestion? editor.buffer.text

/-- Takes the suggestion when the cursor is at the end of the line, else moves the cursor on. -/
def acceptOrMove (editor : Editor) (history : History) : Editor :=
  match editor.suggestion? history with
  | some suggestion =>
    if editor.buffer.atEnd then { editor with buffer := .ofText suggestion }.stay
    else editor.move .moveRight
  | none => editor.move .moveRight

end Editor

end CommandShell
