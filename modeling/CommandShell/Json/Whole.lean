import CommandShell.Json.Display
import CommandShell.Text.Integer
import CommandShell.Fault

/-!
The whole number that a JSON value stands for, where settings ask for one.
-/

namespace CommandShell.Json

/-- The whole number of a value: a number without its fraction, or one written in a text. -/
def whole : Json → Except Fault Int
  | .bool value => .ok (if value then 1 else 0)
  | .int value => .ok value
  | .float .nan => .error (.badValue "cannot convert float NaN to integer")
  | .float value =>
    match value.whole? with
    | some whole => .ok whole
    | none => .error .unbounded
  | .text value =>
    match Text.integer? value with
    | some whole => .ok whole
    | none => .error (.notNumber value)
  | value => .error (.wrongKind (
      "int() argument must be a string, a bytes-like object or a real number, not '" ++
        kindName value ++ "'"))

/-- A text followed by a value, which must be a text too. -/
def followedBy (front : Text) : Json → Except Fault Text
  | .text value => .ok (front ++ value)
  | value => .error (.wrongKind (
      "can only concatenate str (not \"" ++ kindName value ++ "\") to str"))

end CommandShell.Json
