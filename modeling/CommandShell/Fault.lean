import CommandShell.Text.Quoted

/-!
What can go wrong. A fault says its cause; the text shown to a person is computed from it.
-/

namespace CommandShell

/-- Why the system refuses an operation on a path. -/
inductive FileProblem
  | notFound
  | badFormat
  | denied
  | exists
  | notDirectory
  | isDirectory
  | nameTooLong
  | linkLoop
  deriving DecidableEq, Repr

namespace FileProblem

/-- The system's number for a problem. -/
def number : FileProblem → Nat
  | notFound => 2
  | badFormat => 8
  | denied => 13
  | .exists => 17
  | notDirectory => 20
  | isDirectory => 21
  | nameTooLong => 36
  | linkLoop => 40

/-- The system's words for a problem. -/
def description : FileProblem → Text
  | notFound => "No such file or directory"
  | badFormat => "Exec format error"
  | denied => "Permission denied"
  | .exists => "File exists"
  | notDirectory => "Not a directory"
  | isDirectory => "Is a directory"
  | nameTooLong => "File name too long"
  | linkLoop => "Too many levels of symbolic links"

/-- Problems that mean that there is nothing at the path. -/
def meansAbsent : FileProblem → Bool
  | notFound | notDirectory | linkLoop => true
  | _ => false

end FileProblem

/-- The cause of a failed operation. -/
inductive Fault
  /-- The system refused an operation on a path. -/
  | file (problem : FileProblem) (path : Text)
  /-- A path holds the null character. -/
  | nullInPath
  /-- The user broke the work off. -/
  | interrupted
  /-- A file that must be text is not. -/
  | undecodable
  /-- A cursor lies behind the end of its text. -/
  | cursorBeyond (cursor : Int) (length : Nat)
  /-- An index names no entry. -/
  | outOfRange
  /-- A text that must be a number is none. -/
  | notNumber (written : Text)
  /-- A number has too many digits. -/
  | tooManyDigits
  /-- An infinite number has no whole part. -/
  | unbounded
  /-- Values are nested too deeply. -/
  | nesting
  /-- A value is of a kind that the work cannot use. -/
  | wrongKind (reason : Text)
  /-- A value lacks a part that the work needs. -/
  | lacking (reason : Text)
  /-- Starting a program failed in a way of its own. -/
  | program (reason : Text)
  /-- Starting a program was refused for a value. -/
  | badValue (reason : Text)
  /-- Markup closes what it did not open. -/
  | markup (reason : Text)
  /-- A style cannot be read. -/
  | style (reason : Text)
  /-- A style is needed and cannot be found. -/
  | missingStyle (reason : Text)
  /-- A value cannot be drawn. -/
  | unrenderable (reason : Text)
  deriving DecidableEq, Repr

namespace Fault

def message : Fault → Text
  | file problem path =>
    "[Errno " ++ Text.ofNat problem.number ++ "] " ++ problem.description ++ ": " ++
      Text.quoted path
  | nullInPath => "embedded null byte"
  | interrupted => []
  | undecodable => "invalid text"
  | cursorBeyond cursor length =>
    "cursor_position=" ++ Text.ofInt cursor ++ ", len_text=" ++ Text.ofNat length
  | outOfRange => "list index out of range"
  | notNumber written => "invalid literal for int() with base 10: " ++ Text.quoted written
  | tooManyDigits => "Exceeds the limit (4300 digits) for integer string conversion"
  | unbounded => "cannot convert float infinity to integer"
  | nesting => "maximum recursion depth exceeded"
  | wrongKind reason | lacking reason | program reason | badValue reason | markup reason
  | style reason | missingStyle reason | unrenderable reason => reason

/-- Whether a fault is a failure of the work, and not the user's wish to stop. -/
def isFailure : Fault → Bool
  | interrupted => false
  | _ => true

/-- Whether the system refused an operation. -/
def isFile : Fault → Bool
  | file _ _ => true
  | _ => false

end Fault

end CommandShell
