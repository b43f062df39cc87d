import CommandShell.Text.Digit
import CommandShell.Text.Quoted

/-!
The command line of the program. Long options may be shortened as long as they stay clear, short
ones may be joined, and a value may follow its option at once, behind an equals sign, or as the next
argument. Arguments that mean nothing are reported together.
-/

namespace CommandShell

/-- An option of the command line. -/
inductive CommandOption
  | help
  | version
  | reload
  | command
  deriving DecidableEq, Repr

namespace CommandOption

def spellings : List (Text × CommandOption) :=
  [("-h", help), ("--help", help), ("--version", version), ("-v", version),
   ("--config-reload", reload), ("-c", command)]

def ofSpelling? (t : Text) : Option CommandOption := spellings.lookup t

/-- The name of an option in messages: all its spellings. -/
def name (option : CommandOption) : Text :=
  Text.join "/" ((spellings.filter fun (_, other) => other = option).map (·.1))

def hasValue (option : CommandOption) : Bool := option = command

end CommandOption

/-- An option as it stands in an argument: whether it is written with two dashes, and the value that
stands in the same argument. -/
structure GivenOption where
  option : CommandOption
  long : Bool
  value : Option Text := none
  deriving DecidableEq, Repr

/-- What an argument is taken for. -/
inductive Argument
  | operand (text : Text)
  | dashes
  | unknown (text : Text)
  | option (given : GivenOption)
  deriving DecidableEq, Repr

namespace Argument

/-- Whether a spelling has two dashes. -/
def isLong (t : Text) : Bool := t.take 2 = ['-', '-']

/-- The part of a text before its first equals sign, and the part behind it. -/
def cutSign (t : Text) : Text × Option Text :=
  match Text.partition? "=" t with
  | some (front, value) => (front, some value)
  | none => (t, none)

/-- The options that an argument may be meant for, with their spellings. -/
def meanings (t : Text) : List (Text × GivenOption) :=
  if isLong t then
    let (front, value) := cutSign t
    (CommandOption.spellings.filter fun (spelling, _) => front.isPrefixOf spelling).map
      fun (spelling, meant) => (spelling, ⟨meant, true, value⟩)
  else
    (CommandOption.spellings.filter fun (spelling, _) => spelling = t.take 2).map
      fun (spelling, meant) => (spelling, ⟨meant, false, some (t.drop 2)⟩)

/-- The text without a line feed at its end. -/
def withoutFeed (t : Text) : Text := if t.getLast? = some '\n' then t.dropLast else t

/-- Whether a text is a number below zero. It may end with a line feed. -/
def isNegative (t : Text) : Bool :=
  let digits (t : Text) : Bool := t.all fun c => (Text.decimalValue? c).isSome
  match withoutFeed t with
  | '-' :: rest =>
    match Text.partition? "." rest with
    | some (front, part) => digits front && digits part && !part.isEmpty
    | none => digits rest && !rest.isEmpty
  | _ => false

/-- What an argument is taken for, or what is wrong with it. -/
def ofText (t : Text) : Except Text Argument :=
  if t.head? ≠ some '-' || t = ['-'] then .ok (operand t)
  else if t = ['-', '-'] then .ok dashes
  else
    match CommandOption.ofSpelling? t, cutSign t with
    | some found, _ => .ok (option ⟨found, isLong t, none⟩)
    | none, (front, value) =>
      match CommandOption.ofSpelling? front, value with
      | some found, some value => .ok (option ⟨found, isLong t, some value⟩)
      | _, _ =>
        match meanings t with
        | [(_, given)] => .ok (option given)
        | [] => .ok (if isNegative t || t.contains ' ' then operand t else unknown t)
        | several => .error ("ambiguous option: " ++ t ++ " could match " ++
            Text.join ", " (several.map (·.1)))

/-- What the arguments are taken for. After two dashes all are operands. -/
def ofTexts : List Text → Except Text (List Argument)
  | [] => .ok []
  | t :: rest => do
    let argument ← ofText t
    if argument = dashes then return dashes :: rest.map operand
    else return argument :: (← ofTexts rest)

end Argument

/-- The options of an argument: those that are settled with their values, and an option whose value
does not stand in the argument. -/
structure Joined where
  settled : List (CommandOption × Option Text) := []
  pending : Option CommandOption := none
  deriving DecidableEq, Repr

namespace Joined

def complaint (option : CommandOption) (problem : Text) : Text :=
  "argument " ++ option.name ++ ": " ++ problem

/-- The options of an argument with a value in it. Behind a short option without a value, the value
holds further short options. -/
def ofValue (option : CommandOption) (long : Bool) (value : Text) : Except Text Joined :=
  if option.hasValue then .ok { settled := [(option, some value)] }
  else
    let ignored := complaint option ("ignored explicit argument " ++ Text.quoted value)
    match value with
    | [] => .error ignored
    | c :: rest =>
      if long then .error ignored
      else
        match CommandOption.ofSpelling? ['-', c] with
        | none => .error ignored
        | some next => do
          let joined ←
            if rest.isEmpty then pure { pending := some next } else ofValue next false rest
          return { joined with settled := (option, none) :: joined.settled }
termination_by value.length

def ofGiven (given : GivenOption) : Except Text Joined :=
  match given.value with
  | none => .ok { pending := some given.option }
  | some value => ofValue given.option given.long value

end Joined

/-- What a shell is to work on: what the user enters, or one line. A line of two dashes alone is no
line. -/
inductive Task
  | session
  | line (text : Text)
  | noLine
  deriving DecidableEq, Repr

def Task.ofLine (text : Text) : Task := if text = ['-', '-'] then noLine else line text

/-- What the command line asks for. -/
structure Options where
  version : Bool := false
  reload : Bool := false
  task : Task := .session
  deriving DecidableEq, Repr

/-- Why the command line is not followed. -/
inductive Refusal
  | help
  | misuse (problem : Text)
  deriving DecidableEq, Repr

namespace Options

def take (options : Options) : CommandOption × Option Text → Except Refusal Options
  | (.help, _) => .error .help
  | (.version, _) => .ok { options with version := true }
  | (.reload, _) => .ok { options with reload := true }
  | (.command, value) => .ok { options with task := (value.map Task.ofLine).getD .session }

/-- Takes arguments one after the other, and gives those that mean nothing. -/
def takeAll (options : Options) : List Argument → Except Refusal (Options × List Text)
  | [] => .ok (options, [])
  | .operand t :: rest | .unknown t :: rest => do
    let (options, strange) ← takeAll options rest
    return (options, t :: strange)
  | .dashes :: rest => do
    let (options, strange) ← takeAll options rest
    return (options, ['-', '-'] :: strange)
  | .option given :: rest => do
    let joined ← (Joined.ofGiven given).mapError Refusal.misuse
    match joined.pending with
    | none =>
      let options ← joined.settled.foldlM take options
      takeAll options rest
    | some pending =>
      if pending.hasValue then
        match rest with
        | .operand value :: rest =>
          let options ← (joined.settled ++ [(pending, some value)]).foldlM take options
          takeAll options rest
        | _ => .error (.misuse (Joined.complaint pending "expected one argument"))
      else
        let options ← (joined.settled ++ [(pending, none)]).foldlM take options
        takeAll options rest

/-- What a command line asks for, or why it is not followed. -/
def read (arguments : List Text) : Except Refusal Options := do
  let arguments ← (Argument.ofTexts arguments).mapError Refusal.misuse
  let (options, strange) ← takeAll {} arguments
  if strange.isEmpty then return options
  else .error (.misuse ("unrecognized arguments: " ++ Text.join " " strange))

/-- The line that says how the program is called. -/
def usage : Text := "usage: wsh [-h] [--version] [--config-reload] [-c COMMAND]\n"

def help : Text := usage ++ ("
wsh: interactive shell with autosuggestions, completion pager and abbreviations

options:
  -h, --help       show this help message and exit
  --version, -v    Show version information
  --config-reload  Reload configuration and exit
  -c COMMAND       Execute COMMAND and exit with its status

Examples:
  wsh                          # Start interactive shell
  wsh -c 'ls -la'              # Run one command line and exit
  wsh --version                # Show version information
  wsh --config-reload          # Recreate and reload configuration
        \n" : Text)

/-- What is said about a command line that is not followed. -/
def misuse (problem : Text) : Text := usage ++ "wsh: error: " ++ problem ++ "\n"

end Options

end CommandShell
