import CommandShell.World

/-!
The journal on file: one line for each message, with the time at its front.
-/

namespace CommandShell

/-- A day of the calendar. -/
structure Day where
  year : Int
  month : Nat
  day : Nat
  deriving DecidableEq, Repr

namespace Day

/-- The day that comes so many days after the first of January 1970. Years are counted from March
on, so that a leap day is the last day of its year, in eras of 400 years. -/
def ofNumber (number : Int) : Day :=
  let shifted := number + 719468
  let era := shifted / 146097
  let inEra := (shifted % 146097).toNat
  let yearInEra := (inEra - inEra / 1460 + inEra / 36524 - inEra / 146096) / 365
  let inYear := inEra - (365 * yearInEra + yearInEra / 4 - yearInEra / 100)
  let fifth := (5 * inYear + 2) / 153
  let month := if fifth < 10 then fifth + 3 else fifth - 9
  let year := era * 400 + yearInEra
  ⟨if month ≤ 2 then year + 1 else year, month, inYear - (153 * fifth + 2) / 5 + 1⟩

example : ofNumber 0 = ⟨1970, 1, 1⟩ := by decide
example : ofNumber 11016 = ⟨2000, 2, 29⟩ := by decide
example : ofNumber 19675 = ⟨2023, 11, 14⟩ := by decide

end Day

namespace Text

/-- A number with at least so many digits. -/
def padded (width n : Nat) : Text :=
  let digits := ofNat n
  List.replicate (width - digits.length) '0' ++ digits

end Text

/-- The date and time of a moment, in seconds since the start of 1970 and thousandths. -/
def momentText (seconds : Int) (thousandths : Nat) : Text :=
  let date := Day.ofNumber (seconds / 86400)
  let rest := (seconds % 86400).toNat
  Text.padded 4 date.year.toNat ++ '-' :: Text.padded 2 date.month ++ '-' ::
    Text.padded 2 date.day ++ ' ' :: Text.padded 2 (rest / 3600) ++ ':' ::
    Text.padded 2 (rest / 60 % 60) ++ ':' :: Text.padded 2 (rest % 60) ++ ',' ::
    Text.padded 3 thousandths

namespace Level

/-- The form of the lines of a journal for which no other form is chosen. -/
def plainForm : Text := "%(levelname)s:%(name)s:%(message)s"

/-- The least rank of the messages that a level with a name lets through. Names of no level count as
the name of warnings, but for the names of the form of the lines and of the table of forms, which
are taken for levels and refused. -/
def threshold (name : Text) : Except Fault Nat :=
  match ([debug, info, warning, error, critical].find? fun level => level.name = name) with
  | some level => .ok level.rank
  | none =>
    if name = "FATAL".toList then .ok critical.rank
    else if name = "BASIC_FORMAT".toList then
      .error (.badValue ("Unknown level: " ++ Text.quoted plainForm))
    else if name = "_STYLES".toList then
      .error (.wrongKind "Level not an integer or a valid string")
    else .ok warning.rank

end Level

namespace World

/-- Makes a file for the journal. The answer says whether messages can be written into it. -/
def openJournal (path : Text) : Act World Bool := do
  match ← Act.attempt (appendText path []) with
  | .ok () => return true
  | .error fault => if fault.isFile then return false else throw fault

/-- Writes the messages of a rank and above into the file of the journal. -/
def keepJournal (path : Text) (least : Nat) : Act World Unit := do
  let world ← get
  let kept := world.journal.reverse.filter fun message => least ≤ message.level.rank
  appendText path (kept.flatMap fun message =>
    momentText world.clock.toInt world.thousandths ++ ' ' :: message.line ++ ['\n'])

end World

end CommandShell
