import CommandShell.Number.Binary64
import CommandShell.Table

/-!
Values of the JSON data format. Whole numbers are exact, other numbers are 64-bit floating point,
and a record remembers the order of its fields.
-/

namespace CommandShell

/-- A JSON value. -/
inductive Json
  | null
  | bool (value : Bool)
  | int (value : Int)
  | float (value : Binary64)
  | text (value : Text)
  | list (items : List Json)
  | record (fields : List (Text × Json))
  deriving Repr, Inhabited

namespace Json

instance : Coe String Json := ⟨fun written => .text written.toList⟩

def text? : Json → Option Text
  | text t => some t
  | _ => none

def list? : Json → Option (List Json)
  | list items => some items
  | _ => none

def record? : Json → Option (Table Json)
  | record fields => some fields
  | _ => none

def field? (value : Json) (name : Text) : Option Json := value.record?.bind (·.get? name)

/-- The value at the end of a path of field names. -/
def at? (value : Json) : List Text → Option Json
  | [] => some value
  | name :: path => (value.field? name).bind (at? · path)

/-- Values that count as true: all but `null`, `false`, zero and what is empty. -/
def isTrue : Json → Bool
  | null => false
  | bool value => value
  | int value => value != 0
  | float value => !value.isZero
  | text value => !value.isEmpty
  | list items => !items.isEmpty
  | record fields => !fields.isEmpty

/-- The integer that a value counts as, truth values as one and zero. -/
def int? : Json → Option Int
  | bool value => some (if value then 1 else 0)
  | int value => some value
  | _ => none

/-- Whether a value is the number that equals no number. -/
def isNan : Json → Bool
  | float .nan => true
  | _ => false

mutual
/-- Whether two values are equal. Numbers are compared by value, truth values as numbers, and
records without regard to order. -/
def equals : Json → Json → Bool
  | null, null => true
  | text a, text b => a == b
  | list items, list items' => equalItems items items'
  | record fields, record fields' =>
    fields.length == fields'.length && equalFields fields fields'
  | float a, float b => a.equals b
  | float a, other => match other.int? with
    | some i => a.equalsInt i
    | none => false
  | other, float b => match other.int? with
    | some i => b.equalsInt i
    | none => false
  | a, b => match a.int?, b.int? with
    | some i, some j => i == j
    | _, _ => false

/-- Whether two lists have equal items in the same order. In them `nan` is the same as itself. -/
def equalItems : List Json → List Json → Bool
  | [], [] => true
  | a :: rest, b :: rest' => (isNan a && isNan b || equals a b) && equalItems rest rest'
  | _, _ => false

/-- Whether each field has an equal one of its name. -/
def equalFields : List (Text × Json) → Table Json → Bool
  | [], _ => true
  | (name, a) :: rest, fields' => (match fields'.get? name with
    | some b => isNan a && isNan b || equals a b
    | none => false) && equalFields rest fields'
end

def isAmong (value : Json) (items : List Json) : Bool :=
  items.any fun item => equalItems [value] [item]

end Json

end CommandShell
