import CommandShell.Json.Basic
import CommandShell.Text.Quoted

/-!
How a JSON value is shown to a person where text is expected: a text as itself, the other values by
their names, and texts inside lists and records in quotes.
-/

namespace CommandShell.Json

mutual
/-- A value inside another one. -/
def shown : Json → Text
  | .null => "None"
  | .bool value => if value then "True" else "False"
  | .int value => Text.ofInt value
  | .float value => value.text
  | .text value => Text.quoted value
  | .list items => '[' :: shownItems items ++ [']']
  | .record fields => '\x7b' :: shownFields fields ++ ['\x7d']

def shownItems : List Json → Text
  | [] => []
  | [item] => shown item
  | item :: items => shown item ++ ", " ++ shownItems items

def shownFields : List (Text × Json) → Text
  | [] => []
  | [(name, item)] => Text.quoted name ++ ": " ++ shown item
  | (name, item) :: fields =>
    Text.quoted name ++ ": " ++ shown item ++ ", " ++ shownFields fields
end

def display : Json → Text
  | .text value => value
  | value => shown value

def kindName : Json → Text
  | .null => "NoneType"
  | .bool _ => "bool"
  | .int _ => "int"
  | .float _ => "float"
  | .text _ => "str"
  | .list _ => "list"
  | .record _ => "dict"

end CommandShell.Json
