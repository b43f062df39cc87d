import CommandShell.Text.Basic

/-!
What a word means. Quotes group characters and a backslash makes the next one ordinary; the meaning
is the characters without the signs that did so.
-/

namespace CommandShell.Word

/-- Where a character of a word stands. -/
inductive Quoting
  | bare
  | single
  | double
  deriving DecidableEq, Repr

/-- The meaning of a piece of a word that starts in the given quoting. Between single quotes a
backslash is ordinary, and so is one at the end of the word. -/
def meaningFrom : Quoting → Text → Text
  | _, [] => []
  | .single, c :: rest =>
    if c = '\'' then meaningFrom .bare rest else c :: meaningFrom .single rest
  | _, ['\\'] => ['\\']
  | quoting, '\\' :: c :: rest => c :: meaningFrom quoting rest
  | .double, c :: rest =>
    if c = '"' then meaningFrom .bare rest else c :: meaningFrom .double rest
  | .bare, c :: rest =>
    if c = '\'' then meaningFrom .single rest
    else if c = '"' then meaningFrom .double rest
    else c :: meaningFrom .bare rest

def meaning (word : Text) : Text := meaningFrom .bare word

end CommandShell.Word
