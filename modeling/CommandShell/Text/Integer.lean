import CommandShell.Text.Digit

/-!
Integers in text: decimal digits of any script, single underscores between them, a sign in front
and blanks around. A number may have at most 4300 digits, where it is read and where it is written.
-/

namespace CommandShell.Text

/-- The most digits a number may be written with. -/
def digitLimit : Nat := 4300

/-- The decimal digits of an integer, unless there are too many of them. -/
def ofInt? (i : Int) : Option Text :=
  if (ofNat i.natAbs).length ≤ digitLimit then some (ofInt i) else none

/-- The digits of a number: runs of decimal digits that are not empty, with one underscore between
two runs. -/
def digits? (t : Text) : Option (List Nat) :=
  ((splitOn '_' t).mapM fun (run : Text) =>
    if run.isEmpty then none else run.mapM decimalValue?).map List.flatten

def value (digits : List Nat) : Nat := digits.foldl (fun n d => 10 * n + d) 0

/-- The number written with decimal digits, within the limit. -/
def natural? (t : Text) : Option Nat :=
  match digits? t with
  | none => none
  | some digits => if digits.length ≤ digitLimit then some (value digits) else none

/-- Blanks that may stand around a number: white space, but not the information separators. -/
def isMargin (c : Char) : Bool :=
  let n := c.toNat
  (9 ≤ n && n ≤ 13) || n == 0x20 || n == 0x85 || n == 0xA0 || n == 0x1680 ||
  (0x2000 ≤ n && n ≤ 0x200A) || n == 0x2028 || n == 0x2029 || n == 0x202F || n == 0x205F ||
  n == 0x3000

def integer? (t : Text) : Option Int :=
  match (((t.dropWhile isMargin).reverse.dropWhile isMargin).reverse : Text) with
  | '-' :: rest => (natural? rest).map fun n => -(n : Int)
  | '+' :: rest => (natural? rest).map fun n => (n : Int)
  | rest => (natural? rest).map fun n => (n : Int)

end CommandShell.Text
