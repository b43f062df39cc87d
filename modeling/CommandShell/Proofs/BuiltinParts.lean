import CommandShell.Execute

/-! Work of the shell that is done in two parts, cut between them: builtins that first work out what they
are asked for and then do it, and the notes about a pipeline. -/

namespace CommandShell.Proofs.BuiltinParts
open Shell

/-- The words behind the flag that may stand in front of them. -/
def setWords : List Text → List Text
  | ['-', 'U'] :: rest => rest
  | words => words

def assign : List Text → Act Shell Reply
  | name :: value :: values => do
    changeSession fun session =>
      { session with environment := session.environment.set name (Text.join " " (value :: values)) }
    return .status 0
  | _ => return .misuse "set [-U] KEY VALUE"

def copy (text : Text) : Act Shell Reply := do
  match (← get).world.clipboard with
  | .broken reason =>
    display (.error "pbcopy" ("pbcopy: " ++ reason))
    return .status 1
  | .holding _ =>
    modify fun shell => { shell with world := { shell.world with clipboard := .holding text } }
    return .status 0

theorem runSet_eq (arguments : List Text) :
    runSet arguments =
      if arguments.isEmpty then do
        display (.environment (← get).session.environment.sorted)
        return .status 0
      else assign (setWords arguments) := by
  unfold runSet
  by_cases none : arguments.isEmpty = true
  · rw [if_pos none, if_pos none]
  · rw [if_neg none, if_neg none]
    split
    next words => rfl
    next words other =>
      rw [setWords.eq_2 _ other]
      rfl

theorem runCopy_eq (arguments : List Text) :
    runCopy arguments = (do
      copy (← if arguments.isEmpty then inWorld World.takeInput else pure (Text.join " " arguments))) :=
  rfl

/-- Says in the journal which redirects of a pipeline, and whether its background sign, are passed over. -/
def noteSigns (pipeline : Pipeline) : Act Shell Unit := do
  for command in pipeline.commands do
    unless command.redirects.isEmpty do
      note .info source ("redirects for " ++ Text.quoted command.program ++ " not applied: " ++
        Text.join ", " (command.redirects.map redirectText))
  if pipeline.background then
    note .info source ("background execution unavailable, running " ++
      Text.quoted pipeline.head.program ++ " in the foreground")

theorem notePipeline_eq (pipeline : Pipeline) :
    notePipeline pipeline =
      if pipeline.later.isEmpty then noteSigns pipeline else (do
        note .info source ("pipe wiring unavailable, running only " ++
          Text.quoted pipeline.head.program ++ " of " ++ Text.ofNat pipeline.commands.length ++ " stages")
        noteSigns pipeline) :=
  rfl

end CommandShell.Proofs.BuiltinParts
