import CommandShell.World
import CommandShell.CursorWord
import CommandShell.Json.Reader
import CommandShell.Json.Writer
import CommandShell.Json.Whole

/-!
Abbreviations: words that are replaced by their expansions while a line is typed. They are kept in a
file as a JSON record. Expansions that the user enters are texts; those that come with the settings
can be any value.
-/

namespace CommandShell

/-- Expansions by word, and the file where they are kept. -/
structure Abbreviations where
  file : Option Path := none
  table : Table Json := []

namespace Abbreviations

/-- The part of the shell that messages about abbreviations come from. -/
def source : Text := "wsh.core.abbreviations"

def add (abbreviations : Abbreviations) (word : Text) (expansion : Json) : Abbreviations :=
  { abbreviations with table := abbreviations.table.set word expansion }

def expansion? (abbreviations : Abbreviations) (word : Text) : Option Json :=
  match abbreviations.table.get? word with
  | some .null => none
  | found => found

/-- Takes a word out. The answer says whether it had an expansion. -/
def remove (abbreviations : Abbreviations) (word : Text) : Abbreviations × Bool :=
  ({ abbreviations with table := abbreviations.table.erase word },
    (abbreviations.expansion? word).isSome)

/-- The words and expansions in the order of the words. -/
def items (abbreviations : Abbreviations) : List (Text × Json) := abbreviations.table.sorted

/-- Replaces the word before the cursor by its expansion, if it has one. -/
def expandAt (abbreviations : Abbreviations) (text : Text) (cursor : Int) :
    Except Fault (Text × Int) := do
  let word ← cursorWord text cursor
  if word.isEmpty then return (text, cursor)
  match abbreviations.expansion? word with
  | none => return (text, cursor)
  | some expansion =>
    let front ← Json.followedBy (Text.before (cursor - word.length) text) expansion
    let size := ((expansion.text?).getD []).length
    return (front ++ Text.after cursor text, cursor + size - word.length)

/-- The value that the file at a path holds. -/
def readFile (path : Text) : Act World (Except Text Json) := do
  match ← Act.attempt (World.readText path) with
  | .error fault => if fault.isFile then return .error fault.message else throw fault
  | .ok content =>
    let content := Text.trim content
    if content.isEmpty then return .ok (.record [])
    match Json.read content with
    | .ok value => return .ok value
    | .error (.mistake kind left) => return .error (Json.report content kind left)
    | .error .digits => throw .tooManyDigits
    | .error .nesting => throw .nesting

/-- Adds the abbreviations of the file. The answer is the number of abbreviations there are then, or
zero when the file cannot be used. -/
def load (abbreviations : Abbreviations) : Act World (Abbreviations × Nat) := do
  match abbreviations.file with
  | none => return (abbreviations, 0)
  | some file =>
    if ← World.occupied file.text then
      match ← readFile file.text with
      | .error reason =>
        World.note .warning source
          ("could not load abbreviations from " ++ file.text ++ ": " ++ reason)
        return (abbreviations, 0)
      | .ok value =>
        let fields := (value.record?.getD []).map fun (word, expansion) =>
          (word, Json.text expansion.display)
        let table := abbreviations.table.overlay fields
        return ({ abbreviations with table }, table.length)
    else return (abbreviations, 0)

def save (abbreviations : Abbreviations) : Act World Unit := do
  match abbreviations.file with
  | none => return ()
  | some file =>
    let written ← Act.attempt do
      World.ensureFolders file.parent
      World.writeText file.text (Json.record abbreviations.table).indentedAscii
    match written with
    | .ok () => return ()
    | .error fault =>
      if fault.isFile then
        World.note .warning source
          ("could not save abbreviations to " ++ file.text ++ ": " ++ fault.message)
      else throw fault

end Abbreviations

end CommandShell
