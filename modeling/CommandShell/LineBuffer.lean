import CommandShell.Text.Basic

/-!
The line being edited: its text and the cursor, an offset into it.
-/

namespace CommandShell

/-- A text with a cursor in it. -/
structure LineBuffer where
  text : Text := []
  cursor : Nat := 0
  deriving DecidableEq, Repr

namespace LineBuffer

/-- A text with the cursor at its end. -/
def ofText (text : Text) : LineBuffer := ⟨text, text.length⟩

/-- A text with the cursor at an offset, or at the nearest end when the offset lies outside. -/
def place (text : Text) (cursor : Int) : LineBuffer := ⟨text, min cursor.toNat text.length⟩

def before (buffer : LineBuffer) : Text := buffer.text.take buffer.cursor

def after (buffer : LineBuffer) : Text := buffer.text.drop buffer.cursor

def atEnd (buffer : LineBuffer) : Bool := buffer.cursor = buffer.text.length

/-- Puts text in at the cursor and moves the cursor behind it. -/
def insert (buffer : LineBuffer) (chars : Text) : LineBuffer :=
  ⟨buffer.before ++ chars ++ buffer.after, buffer.cursor + chars.length⟩

def deleteBack (buffer : LineBuffer) : LineBuffer :=
  if 0 < buffer.cursor then
    ⟨buffer.text.take (buffer.cursor - 1) ++ buffer.after, buffer.cursor - 1⟩
  else buffer

def deleteForward (buffer : LineBuffer) : LineBuffer :=
  if buffer.cursor < buffer.text.length then
    { buffer with text := buffer.before ++ buffer.text.drop (buffer.cursor + 1) }
  else buffer

/-- Replaces so many characters before the cursor, and moves the cursor behind the replacement. A
negative length reaches behind the cursor. -/
def replaceBefore (buffer : LineBuffer) (length : Int) (replacement : Text) : LineBuffer :=
  let start := (buffer.cursor - length).toNat
  ⟨buffer.text.take start ++ replacement ++ buffer.after, start + replacement.length⟩

def moveLeft (buffer : LineBuffer) : LineBuffer := { buffer with cursor := buffer.cursor - 1 }

def moveRight (buffer : LineBuffer) : LineBuffer :=
  { buffer with cursor := min buffer.text.length (buffer.cursor + 1) }

def moveHome (buffer : LineBuffer) : LineBuffer := { buffer with cursor := 0 }

def moveEnd (buffer : LineBuffer) : LineBuffer := { buffer with cursor := buffer.text.length }

/-- Removes the spaces before the cursor and the word before them. -/
def killWord (buffer : LineBuffer) : LineBuffer :=
  let kept := ((buffer.before.reverse.dropWhile (· == ' ')).dropWhile (· != ' ')).reverse
  ⟨kept ++ buffer.after, kept.length⟩

def killLine (_ : LineBuffer) : LineBuffer := {}

def killToEnd (buffer : LineBuffer) : LineBuffer := { buffer with text := buffer.before }

end LineBuffer

end CommandShell
