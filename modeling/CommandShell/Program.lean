import CommandShell.Settings

/-!
Starting programs. The status of a program is its exit code, or 128 and the number of the signal
that ended it. A program that cannot be started has the status 127.
-/

namespace CommandShell.Program

/-- The status of a program that cannot be started. -/
def notFoundCode : Int := 127

/-- The part of the shell that messages about starting programs come from. -/
def source : Text := "wsh.commands.spawn"

def status (code : Int) : Int := if code ≥ 0 then code else 128 - code

/-- Starts a program and gives its status. No words start nothing. -/
def start (words : List Json) (environment : Table Text) (folder : Option Text) :
    Act World Int := do
  match words with
  | [] => return 0
  | name :: _ =>
    let name := name.display
    match ← World.launch ⟨words, folder, environment⟩ with
    | .code code => return status code
    | .refused .notFound => return notFoundCode
    | .refused .denied =>
      World.note .debug source
        ("cannot execute " ++ name ++ ": " ++ (Fault.file .denied name).message)
      return notFoundCode
    | .refused problem =>
      World.note .warning source
        ("spawning " ++ name ++ " failed: " ++ (Fault.file problem name).message)
      return notFoundCode
    | .broken reason =>
      World.note .warning source ("spawning " ++ name ++ " failed: " ++ reason)
      return notFoundCode
    | .fault fault => throw fault

/-- The words to try for a program name with a suffix. A script is given to the interpreter. -/
def suffixed (settings : Settings) (name : Text) (arguments : List Text) (suffix : Json) :
    Except Fault (List Json) := do
  let candidate := Json.text (← Json.followedBy name suffix)
  let arguments := arguments.map Json.text
  if suffix.isAmong settings.scriptSuffixes then
    return settings.interpreter ++ candidate :: arguments
  else return candidate :: arguments

/-- Tries a name with each suffix until one can be started. -/
def startSuffixed (settings : Settings) (environment : Table Text) (folder : Option Text)
    (name : Text) (arguments : List Text) : List Json → Act World Int
  | [] => return notFoundCode
  | suffix :: rest => do
    let words ← Act.ofExcept (suffixed settings name arguments suffix)
    let code ← start words environment folder
    if code = notFoundCode then startSuffixed settings environment folder name arguments rest
    else return code

/-- Starts a program by its name, or by its name with a suffix. -/
def run (settings : Settings) (environment : Table Text) (folder : Option Text) (name : Text)
    (arguments : List Text) : Act World Int := do
  let code ← start ((name :: arguments).map Json.text) environment folder
  if code = notFoundCode then
    startSuffixed settings environment folder name arguments settings.programSuffixes
  else return code

end CommandShell.Program
