import CommandShell.Text.Printable

/-!
Text as it is shown inside messages: in single quotes, or in double quotes when it holds a single
quote and no double one, with what cannot be printed written as an escape.
-/

namespace CommandShell.Text

/-- A number in hexadecimal with at least the given number of digits. -/
def hex (width n : Nat) : Text :=
  let digits := Nat.toDigits 16 n
  List.replicate (width - digits.length) '0' ++ digits

/-- One character inside the given quotes. -/
def quotedChar (quote c : Char) : Text :=
  if c = quote || c = '\\' then ['\\', c]
  else if c = '\n' then "\\n"
  else if c = '\r' then "\\r"
  else if c = '\t' then "\\t"
  else if isPrintable c then [c]
  else if c.toNat < 0x100 then "\\x" ++ hex 2 c.toNat
  else if c.toNat < 0x10000 then "\\u" ++ hex 4 c.toNat
  else "\\U" ++ hex 8 c.toNat

def quoted (t : Text) : Text :=
  let quote := if t.contains '\'' && !t.contains '"' then '"' else '\''
  quote :: t.flatMap (quotedChar quote) ++ [quote]

end CommandShell.Text
