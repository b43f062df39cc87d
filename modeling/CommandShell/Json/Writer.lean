import CommandShell.Json.Basic
import CommandShell.Text.Quoted

/-!
Writing JSON: on one line or indented by two spaces, with every character as itself or with those
beyond ASCII as escapes.
-/

namespace CommandShell.Json

/-- The escape of a code unit. -/
def unitEscape (unit : Nat) : Text := "\\u" ++ Text.hex 4 unit

def writtenChar (ascii : Bool) (c : Char) : Text :=
  if c = '"' then "\\\""
  else if c = '\\' then "\\\\"
  else if c = '\n' then "\\n"
  else if c = '\r' then "\\r"
  else if c = '\t' then "\\t"
  else if c = '\x08' then "\\b"
  else if c = '\x0c' then "\\f"
  else if c.toNat < 0x20 then unitEscape c.toNat
  else if ascii && c.toNat ≥ 0x7F then
    if c.toNat < 0x10000 then unitEscape c.toNat
    else
      let above := c.toNat - 0x10000
      unitEscape (0xD800 + above / 0x400) ++ unitEscape (0xDC00 + above % 0x400)
  else [c]

def writtenText (ascii : Bool) (t : Text) : Text :=
  '"' :: t.flatMap (writtenChar ascii) ++ ['"']

def writtenFloat : Binary64 → Text
  | .nan => "NaN"
  | .infinite negative => if negative then "-Infinity" else "Infinity"
  | x => x.text

/-- A layout: which characters are escaped, and whether each item has a line of its own. -/
structure Layout where
  ascii : Bool := true
  indented : Bool := false
  deriving DecidableEq, Repr

namespace Layout

/-- The break before an item at a depth. -/
def lineBreak (layout : Layout) (depth : Nat) : Text :=
  if layout.indented then '\n' :: List.replicate (2 * depth) ' ' else []

/-- What stands between two items at a depth. -/
def between (layout : Layout) (depth : Nat) : Text :=
  if layout.indented then ',' :: layout.lineBreak depth else ", "

end Layout

mutual
def write (layout : Layout) (depth : Nat) : Json → Text
  | .null => "null"
  | .bool value => if value then "true" else "false"
  | .int value => Text.ofInt value
  | .float value => writtenFloat value
  | .text value => writtenText layout.ascii value
  | .list [] => "[]"
  | .list (item :: items) =>
    ['['] ++ layout.lineBreak (depth + 1) ++ write layout (depth + 1) item ++
      writeItems layout (depth + 1) items ++ layout.lineBreak depth ++ [']']
  | .record [] => "\x7b\x7d"
  | .record ((name, item) :: fields) =>
    ['\x7b'] ++ layout.lineBreak (depth + 1) ++ writtenText layout.ascii name ++ ": " ++
      write layout (depth + 1) item ++ writeFields layout (depth + 1) fields ++
      layout.lineBreak depth ++ ['\x7d']

/-- The items after the first. -/
def writeItems (layout : Layout) (depth : Nat) : List Json → Text
  | [] => []
  | item :: items =>
    layout.between depth ++ write layout depth item ++ writeItems layout depth items

/-- The fields after the first. -/
def writeFields (layout : Layout) (depth : Nat) : List (Text × Json) → Text
  | [] => []
  | (name, item) :: fields =>
    layout.between depth ++ writtenText layout.ascii name ++ ": " ++ write layout depth item ++
      writeFields layout depth fields
end

def line (value : Json) : Text := value.write {} 0

/-- A value indented, with characters beyond ASCII as escapes. -/
def indentedAscii (value : Json) : Text := value.write { indented := true } 0

/-- A value indented, with every character as itself. -/
def indented (value : Json) : Text := value.write { ascii := false, indented := true } 0

end CommandShell.Json
