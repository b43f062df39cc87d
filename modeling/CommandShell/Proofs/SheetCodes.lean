import CommandShell.Proofs.HistoryRecords
import CommandShell.Screen

/-! A terminal without an edge to the right or below, and what moves its cursor: the characters that are
shown, line breaks and codes. Codes that clear the terminal or set a style move nothing. -/

namespace CommandShell.Proofs.SheetCodes
open HistoryRecords

structure Glyph where
  row : Nat
  column : Nat
  letter : Char

/-- Where the cursor is, and all that was ever shown, the newest first. -/
structure Sheet where
  row : Nat
  column : Nat
  glyphs : List Glyph := []

/-- What is being read: text, or a code, by the last of its numbers. -/
inductive Reading
  | text
  | escape
  | code (count : Nat)

namespace Sheet

/-- Does what a code says by its last letter. There is nothing above the first row. -/
def obey (sheet : Sheet) (count : Nat) (letter : Char) : Sheet :=
  match letter with
  | 'A' => { sheet with row := sheet.row - max count 1 }
  | 'B' => { sheet with row := sheet.row + max count 1 }
  | 'C' => { sheet with column := sheet.column + max count 1 }
  | 'H' => { sheet with row := 0, column := 0 }
  | _ => sheet

def put (width : Char → Nat) (sheet : Sheet) (c : Char) : Sheet :=
  if c = '\n' then { sheet with row := sheet.row + 1, column := 0 }
  else { sheet with
    column := sheet.column + width c
    glyphs := ⟨sheet.row, sheet.column, c⟩ :: sheet.glyphs }

def lay (width : Char → Nat) (sheet : Sheet) (t : Text) : Sheet := t.foldl (put width) sheet

end Sheet

variable (width : Char → Nat)

/-- One character that is written to the terminal. -/
def step : Sheet × Reading → Char → Sheet × Reading
  | (sheet, .text), c =>
    if c = '\x1b' then (sheet, .escape)
    else if c = '\r' then ({ sheet with column := 0 }, .text)
    else (sheet.put width c, .text)
  | (sheet, .escape), c => (sheet, if c = '[' then .code 0 else .text)
  | (sheet, .code count), c =>
    if c.isDigit then (sheet, .code (10 * count + (c.toNat - '0'.toNat)))
    else if c = ';' then (sheet, .code 0)
    else (sheet.obey count c, .text)

def feed (state : Sheet × Reading) (t : Text) : Sheet × Reading := t.foldl (step width) state

/-- A text with whole codes only, from one sheet to another. -/
def Writes (t : Text) (sheet after : Sheet) : Prop := feed width (sheet, .text) t = (after, .text)

variable {width} {sheet between after : Sheet} {t rest : Text}

theorem feed_append (state : Sheet × Reading) (t rest : Text) :
    feed width state (t ++ rest) = feed width (feed width state t) rest := List.foldl_append

theorem Writes.nothing (sheet : Sheet) : Writes width [] sheet sheet := rfl

theorem Writes.append (first : Writes width t sheet between) (second : Writes width rest between after) :
    Writes width (t ++ rest) sheet after := by
  rw [Writes, feed_append, first, second]

private theorem feed_digits {digits : Text} (numeric : ∀ c ∈ digits, c.isDigit = true) (count : Nat) :
    feed width (sheet, .code count) digits =
      (sheet, .code (digits.foldl (fun n c => 10 * n + (c.toNat - '0'.toNat)) count)) := by
  induction digits generalizing count with
  | nil => rfl
  | cons c digits ih =>
    obtain ⟨here, behind⟩ := List.forall_mem_cons.mp numeric
    rw [feed, List.foldl_cons, step, if_pos here]
    exact ih behind _

private theorem feed_number (n : Nat) : feed width (sheet, .code 0) (Text.ofNat n) = (sheet, .code n) := by
  have value : (Text.ofNat n).foldl (fun n c => 10 * n + (c.toNat - '0'.toNat)) 0 = n := by
    rw [Text.ofNat_eq_toDigits]
    exact Nat.ofDigitChars_ten_toDigits
  rw [feed_digits fun _ => isDigit_of_mem_ofNat, value]

theorem writes_counted {n : Nat} {letter : Char} (noDigit : letter.isDigit = false) (noMark : letter ≠ ';')
    (none : n = 0 → after = sheet) (some : n ≠ 0 → sheet.obey n letter = after) :
    Writes width (Code.counted n letter) sheet after := by
  by_cases zero : n = 0
  · rw [Code.counted, if_pos zero, none zero]
    exact .nothing sheet
  · have code : Code.counted n letter = ['\x1b', '['] ++ (Text.ofNat n ++ [letter]) := by
      rw [Code.counted, if_neg zero]
      rfl
    rw [Writes, code, feed_append]
    change feed width (sheet, .code 0) (Text.ofNat n ++ [letter]) = _
    rw [feed_append, feed_number, feed, List.foldl_cons, step, noDigit, if_neg Bool.false_ne_true, if_neg noMark,
      some zero]
    rfl

theorem max_one {n : Nat} (some : n ≠ 0) : max n 1 = n := Nat.max_eq_left (Nat.one_le_iff_ne_zero.mpr some)

theorem writes_up (n : Nat) : Writes width (Code.up n) sheet { sheet with row := sheet.row - n } :=
  writes_counted (by decide) (by decide) (fun none => by rw [none]; rfl)
    fun some => by rw [Sheet.obey, max_one some]

theorem writes_down (n : Nat) : Writes width (Code.down n) sheet { sheet with row := sheet.row + n } :=
  writes_counted (by decide) (by decide) (fun none => by rw [none]; rfl)
    fun some => by rw [Sheet.obey, max_one some]

theorem writes_right (n : Nat) : Writes width (Code.right n) sheet { sheet with column := sheet.column + n } :=
  writes_counted (by decide) (by decide) (fun none => by rw [none]; rfl)
    fun some => by rw [Sheet.obey, max_one some]

theorem writes_rowStart : Writes width Code.rowStart sheet { sheet with column := 0 } := rfl

theorem writes_newRow : Writes width Code.newRow sheet { sheet with row := sheet.row + 1, column := 0 } := rfl

theorem writes_clearBelow : Writes width Code.clearBelow sheet sheet := rfl

theorem writes_clearRow : Writes width Code.clearRow sheet sheet := rfl

theorem writes_clearScreen : Writes width Code.clearScreen sheet { sheet with row := 0, column := 0 } := rfl

end CommandShell.Proofs.SheetCodes
