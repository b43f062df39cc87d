import CommandShell.Text.Basic

/-!
The commands that the shell carries out itself.
-/

namespace CommandShell

/-- A command of the shell itself. -/
inductive Builtin
  | abbr
  | cd
  | exit
  | export
  | history
  | pbcopy
  | pbpaste
  | pwd
  | set
  | unset
  deriving DecidableEq, Repr

namespace Builtin

/-- All of them, in the order of their names. -/
def all : List Builtin :=
  [abbr, cd, exit, .export, history, pbcopy, pbpaste, pwd, .set, unset]

def name : Builtin → Text
  | abbr => "abbr"
  | cd => "cd"
  | exit => "exit"
  | .export => "export"
  | history => "history"
  | pbcopy => "pbcopy"
  | pbpaste => "pbpaste"
  | pwd => "pwd"
  | .set => "set"
  | unset => "unset"

def names : List Text := all.map name

def ofName? (word : Text) : Option Builtin := all.find? (·.name = word)

end Builtin

end CommandShell
