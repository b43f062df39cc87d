import CommandShell.Highlight

/-!
What the shell tells the user. A notice says what is to be shown; a screen decides how.
-/

namespace CommandShell

/-- The line being edited as it is to be shown: the folder of the prompt, the text and its cursor, a
suggestion of how it goes on, the pager, and the styles of its parts. -/
structure LineView where
  folder : Text
  text : Text
  cursor : Int
  suggestion : Option Text := none
  pager : Option Pager := none
  spans : Option (List Span) := none

/-- Something to show. -/
inductive Notice
  | welcome
  | goodbye
  | line (view : LineView)
  | finishLine
  | clearScreen
  | interruptMark
  | interrupt
  | output (text : Text)
  | warning (message : Text)
  | error (command message : Text)
  | usage (command usage : Text)
  | commandNotFound (line name : Text) (suggestions : List Text)
  | environment (entries : List (Text × Text))
  | abbreviations (items : List (Text × Json))
  | history (entries : List Entry)

end CommandShell
