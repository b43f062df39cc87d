import CommandShell.Text.Basic

/-!
Lines of text. Data files are cut at every character that may end a line; standard input is read
with its carriage returns turned into line feeds and cut at line feeds alone.
-/

namespace CommandShell.Text

/-- Characters that end a line: the vertical controls, the separators U+001C to U+001E, the next
line control and the two Unicode separators. -/
def isLineBreak (c : Char) : Bool :=
  let n := c.toNat
  (0x0A ≤ n && n ≤ 0x0D) || (0x1C ≤ n && n ≤ 0x1E) || n == 0x85 || n == 0x2028 || n == 0x2029

/-- The lines of a text without their breaks. A carriage return and a line feed after it are one
break, and a break at the end starts no further line. -/
def lines : Text → List Text
  | [] => []
  | '\r' :: '\n' :: rest => [] :: lines rest
  | c :: rest =>
    if isLineBreak c then [] :: lines rest
    else match lines rest with
      | [] => [[c]]
      | line :: later => (c :: line) :: later

/-- The text with each carriage return, and each pair with a line feed, turned into a line feed. -/
def plainBreaks : Text → Text
  | [] => []
  | '\r' :: '\n' :: rest => '\n' :: plainBreaks rest
  | c :: rest => (if c = '\r' then '\n' else c) :: plainBreaks rest

/-- Whether a character is one of the controls that no screen shows: bell, backspace, vertical
tabulator, form feed and carriage return. -/
def isHiddenControl (c : Char) : Bool :=
  let n := c.toNat
  n == 7 || n == 8 || n == 11 || n == 12 || n == 13

/-- The text without controls that no screen shows. -/
def withoutControls (t : Text) : Text := t.filter fun c => !isHiddenControl c

/-- The first line with its line feed, and what follows. -/
def takeLine : Text → Text × Text
  | [] => ([], [])
  | c :: rest => if c = '\n' then ([c], rest) else ((c :: (takeLine rest).1), (takeLine rest).2)

end CommandShell.Text
