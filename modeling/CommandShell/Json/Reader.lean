import CommandShell.Json.Basic
import CommandShell.Text.Digit

/-!
Reading JSON. The reader is strict about the grammar, except that it takes `NaN` and the
infinities. A mistake is reported with the place where it was noticed; the reader keeps the place as
the length of the text that was still to be read.
-/

namespace CommandShell.Json

/-- What can be wrong with a text that should be JSON. -/
inductive Mistake
  | value
  | name
  | colon
  | comma
  | openString
  | control
  | escape
  | codePoint
  | extra
  | mark
  deriving DecidableEq, Repr

namespace Mistake

def message : Mistake → Text
  | value => "Expecting value"
  | name => "Expecting property name enclosed in double quotes"
  | colon => "Expecting ':' delimiter"
  | comma => "Expecting ',' delimiter"
  | openString => "Unterminated string starting at"
  | control => "Invalid control character at"
  | escape => "Invalid \\escape"
  | codePoint => "Invalid \\uXXXX escape"
  | extra => "Extra data"
  | mark => "Unexpected UTF-8 BOM (decode using utf-8-sig)"

end Mistake

/-- Why a text could not be read: a mistake where some text was left, a number with too many digits,
or values nested too deeply. -/
inductive Trouble
  | mistake (kind : Mistake) (left : Nat)
  | digits
  | nesting
  deriving DecidableEq, Repr

/-- How deeply values may be nested. -/
def nestingLimit : Nat := 990

/-- The most digits of a whole number. -/
def wholeLimit : Nat := 4300

/-- Characters between the parts of a value. -/
def isGap (c : Char) : Bool := c == ' ' || c == '\t' || c == '\n' || c == '\r'

def skipGap (t : Text) : Text := t.dropWhile isGap

/-- The number in four hexadecimal digits, and the text after them. Something must follow. -/
def hexUnit? : Text → Option (Nat × Text)
  | a :: b :: c :: d :: e :: rest => do
    let a ← Text.hexDigit? a
    let b ← Text.hexDigit? b
    let c ← Text.hexDigit? c
    let d ← Text.hexDigit? d
    return (((a * 16 + b) * 16 + c) * 16 + d, e :: rest)
  | _ => none

/-- The character that a one-letter escape stands for. -/
def escaped? : Char → Option Char
  | '"' => some '"'
  | '\\' => some '\\'
  | '/' => some '/'
  | 'b' => some '\x08'
  | 'f' => some '\x0c'
  | 'n' => some '\n'
  | 'r' => some '\r'
  | 't' => some '\t'
  | _ => none

/-- A first half of a pair of code units. -/
def isHighHalf (unit : Nat) : Bool := 0xD800 ≤ unit && unit < 0xDC00

/-- A second half of a pair of code units. -/
def isLowHalf (unit : Nat) : Bool := 0xDC00 ≤ unit && unit < 0xE000

/-- The character of a code unit; half of a pair alone is replaced. -/
def unitChar (unit : Nat) : Char :=
  if 0xD800 ≤ unit ∧ unit < 0xE000 then Char.ofNat 0xFFFD else Char.ofNat unit

def pairChar (high low : Nat) : Char :=
  Char.ofNat (0x10000 + (high - 0xD800) * 0x400 + (low - 0xDC00))

/-- The character after `\u`, with the text that follows it. A first half looks for the second one
in the next escape. -/
def codePoint (t : Text) : Except Trouble (Char × Text) :=
  match hexUnit? t with
  | none => .error (.mistake .codePoint (t.length + 1))
  | some (unit, rest) =>
    match rest with
    | '\\' :: 'u' :: more =>
      if isHighHalf unit && 5 ≤ more.length then
        match hexUnit? more with
        | none => .error (.mistake .codePoint (more.length + 1))
        | some (low, rest') =>
          if isLowHalf low then .ok (pairChar unit low, rest') else .ok (unitChar unit, rest)
      else .ok (unitChar unit, rest)
    | _ => .ok (unitChar unit, rest)

/-- The rest of a string after its opening quote, with the text that follows it; `start` is what
was left at that quote. -/
def stringTail (start : Nat) : (fuel : Nat) → Text → Except Trouble (Text × Text)
  | 0, _ => .error (.mistake .openString start)
  | _ + 1, [] => .error (.mistake .openString start)
  | _ + 1, '"' :: rest => .ok ([], rest)
  | _ + 1, ['\\'] => .error (.mistake .openString start)
  | fuel + 1, '\\' :: 'u' :: rest => do
    let (c, rest) ← codePoint rest
    let (more, rest) ← stringTail start fuel rest
    return (c :: more, rest)
  | fuel + 1, '\\' :: c :: rest =>
    match escaped? c with
    | none => .error (.mistake .escape (rest.length + 2))
    | some c => do
      let (more, rest) ← stringTail start fuel rest
      return (c :: more, rest)
  | fuel + 1, c :: rest =>
    if c.toNat < 0x20 then .error (.mistake .control (rest.length + 1))
    else do
      let (more, rest) ← stringTail start fuel rest
      return (c :: more, rest)

/-- The rest of a string after its opening quote. -/
def string (t : Text) : Except Trouble (Text × Text) := stringTail (t.length + 1) (t.length + 1) t

/-- The value of digits after digits of the given value. -/
def digitsValue (before : Nat) (digits : Text) : Nat :=
  digits.foldl (fun n c => 10 * n + (c.toNat - '0'.toNat)) before

/-- The digits after a point, and the text that follows; without a digit there is no fraction. -/
def fraction : Text → Text × Text
  | '.' :: c :: rest =>
    if c.isDigit then (c :: rest.takeWhile Char.isDigit, rest.dropWhile Char.isDigit)
    else ([], '.' :: c :: rest)
  | t => ([], t)

/-- The power of ten after a number, and the text that follows; without a digit there is none. -/
def power (t : Text) : Option Int × Text :=
  match t with
  | [] => (none, t)
  | e :: rest =>
    if e == 'e' || e == 'E' then
      let (negative, rest) := match rest with
        | '-' :: rest => (true, rest)
        | '+' :: rest => (false, rest)
        | rest => (false, rest)
      let digits := rest.takeWhile Char.isDigit
      if digits.isEmpty then (none, t)
      else
        let size : Int := digitsValue 0 digits
        (some (if negative then -size else size), rest.dropWhile Char.isDigit)
    else (none, t)

def number (t : Text) : Except Trouble (Json × Text) :=
  let (negative, body) := match t with
    | '-' :: rest => (true, rest)
    | rest => (false, rest)
  let whole := match body with
    | '0' :: _ => ['0']
    | _ => body.takeWhile Char.isDigit
  if whole.isEmpty then .error (.mistake .value t.length)
  else
    let (decimals, rest) := fraction (body.drop whole.length)
    let (exponent, rest) := power rest
    if decimals.isEmpty && exponent.isNone then
      if whole.length > wholeLimit then .error .digits
      else
        let size : Int := digitsValue 0 whole
        .ok (.int (if negative then -size else size), rest)
    else
      let digits := digitsValue (digitsValue 0 whole) decimals
      .ok (.float (Binary64.ofDecimal negative digits (exponent.getD 0 - decimals.length)), rest)

/-- The values written as a name. -/
def names : List (Text × Json) :=
  [("null", .null), ("true", .bool true), ("false", .bool false), ("NaN", .float .nan),
   ("Infinity", .float (.infinite false)), ("-Infinity", .float (.infinite true))]

/-- A named value at the front of a text. -/
def named? (t : Text) : Option (Json × Text) :=
  names.findSome? fun (name, value) => (Text.dropStart? name t).map (value, ·)

mutual
/-- A value at the front of a text, inside `depth` others, with the text that follows it. -/
def value (fuel depth : Nat) (t : Text) : Except Trouble (Json × Text) :=
  match fuel, t with
  | 0, _ => .error (.mistake .value t.length)
  | _ + 1, '"' :: rest => do
    let (s, rest) ← string rest
    return (.text s, rest)
  | fuel + 1, '[' :: rest =>
    if depth ≥ nestingLimit then .error .nesting
    else match skipGap rest with
      | ']' :: rest => .ok (.list [], rest)
      | rest => do
        let (items, rest) ← items fuel (depth + 1) rest
        return (.list items, rest)
  | fuel + 1, '\x7b' :: rest =>
    if depth ≥ nestingLimit then .error .nesting
    else match skipGap rest with
      | '\x7d' :: rest => .ok (.record [], rest)
      | rest => do
        let (fields, rest) ← fields fuel (depth + 1) rest
        return (.record (Table.ofPairs fields), rest)
  | _ + 1, t =>
    match named? t with
    | some found => .ok found
    | none => number t

def items (fuel depth : Nat) (t : Text) : Except Trouble (List Json × Text) :=
  match fuel with
  | 0 => .error (.mistake .value t.length)
  | fuel + 1 => do
    let (item, rest) ← value fuel depth t
    match skipGap rest with
    | ']' :: rest => return ([item], rest)
    | ',' :: rest =>
      let (more, rest) ← items fuel depth (skipGap rest)
      return (item :: more, rest)
    | rest => .error (.mistake .comma rest.length)

/-- The fields of a record up to its end, in the order they are written. -/
def fields (fuel depth : Nat) (t : Text) : Except Trouble (List (Text × Json) × Text) :=
  match fuel, t with
  | fuel + 1, '"' :: rest => do
    let (name, rest) ← string rest
    match skipGap rest with
    | ':' :: rest =>
      let (item, rest) ← value fuel depth (skipGap rest)
      match skipGap rest with
      | '\x7d' :: rest => return ([(name, item)], rest)
      | ',' :: rest =>
        let (more, rest) ← fields fuel depth (skipGap rest)
        return ((name, item) :: more, rest)
      | rest => .error (.mistake .comma rest.length)
    | rest => .error (.mistake .colon rest.length)
  | _, t => .error (.mistake .name t.length)
end

/-- The value that a text holds, with gaps around it and nothing else. -/
def read (t : Text) : Except Trouble Json :=
  if t.head? = some (Char.ofNat 0xFEFF) then .error (.mistake .mark t.length)
  else do
    let (found, rest) ← value (2 * t.length + 2) 0 (skipGap t)
    match skipGap rest with
    | [] => return found
    | rest => .error (.mistake .extra rest.length)

/-- A mistake with its line, column and character, as it is reported for the text it is in. -/
def report (t : Text) (kind : Mistake) (left : Nat) : Text :=
  let place := t.length - left
  let front := t.take place
  let line := front.count '\n' + 1
  let column := (front.reverse.takeWhile (· ≠ '\n')).length + 1
  kind.message ++ (": line " : Text) ++ Text.ofNat line ++ " column " ++ Text.ofNat column ++
    " (char " ++ Text.ofNat place ++ ")"

end CommandShell.Json
