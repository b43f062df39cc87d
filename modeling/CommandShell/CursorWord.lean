import CommandShell.Text.Blank
import CommandShell.Fault

/-!
The word at the cursor: the run of characters without blanks that ends there.
-/

namespace CommandShell

/-- The word before a cursor, which may not lie behind the text. -/
def cursorWord (text : Text) (cursor : Int) : Except Fault Text :=
  if cursor > text.length then .error (.cursorBeyond cursor text.length)
  else .ok (Text.lastWord (Text.before cursor text))

end CommandShell
