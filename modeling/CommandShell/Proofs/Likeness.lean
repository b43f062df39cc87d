import CommandShell.Execute
import CommandShell.Proofs.ActSteps
import CommandShell.Proofs.BuiltinParts

/-! Carrying out commands from shells that are alike. A likeness says in which of its steps the work
of a command tells two shells apart: in none of them. From that it follows once, for all commands,
that the work gives the same from both shells and leaves them alike. -/

namespace CommandShell.Proofs
open ActSteps BuiltinParts Shell

/-- What of a session the commands of a line read and change. -/
structure Core where
  environment : Environment
  current : Text
  previous : Option Text
  running : Bool
  lastCode : Int

namespace Core

def ofSession (session : Session) : Core :=
  ⟨session.environment, session.current, session.previous, session.running, session.lastCode⟩

def into (core : Core) (session : Session) : Session :=
  { session with
    environment := core.environment, current := core.current, previous := core.previous
    running := core.running, lastCode := core.lastCode }

end Core

structure SameFiles (worlds : World → World → Prop) : Prop where
  files {world other} (alike : worlds world other) : world.files = other.files
  withFiles {world other} (files : Files) (alike : worlds world other) :
    worlds { world with files } { other with files }

namespace SameFiles

variable {worlds : World → World → Prop} (same : SameFiles worlds)

include same

private theorem related_atPath {α : Type} (path : Text) (work : Files → Except FileProblem α) :
    Related Eq worlds Eq (World.atPath path work) (World.atPath path work) := by
  unfold World.atPath
  refine .branch (fun _ => .stop rfl _ _) fun _ => .bind .state fun world other alike => ?_
  rw [same.files alike]
  split
  · exact .value rfl
  · exact .fault rfl

theorem related_editAt (path : Text) (work : Files → Except FileProblem Files) :
    Related Eq worlds Eq (World.editAt path work) (World.editAt path work) :=
  .next (same.related_atPath path work) fun files =>
    .change fun _ _ alike => same.withFiles files alike

private theorem related_ensureFolders (path : Path) :
    Related Eq worlds Eq (World.ensureFolders path) (World.ensureFolders path) := by
  unfold World.ensureFolders
  refine .branch (fun _ => .stop rfl _ _) fun _ => .bind .state fun world other alike => ?_
  rw [same.files alike]
  refine .next (.change fun _ _ alike => same.withFiles _ alike) fun _ => ?_
  split
  · exact .value rfl
  · exact .fault rfl

end SameFiles

/-- Two shells that no step of a command tells apart. Their worlds are alike, some notices need not
be the same, and a folder may be refused in two ways. -/
structure Likeness where
  like : Shell → Shell → Prop
  worlds : World → World → Prop
  shows : Notice → Notice → Prop
  refusals : Fault → Fault → Prop
  core {before other} (alike : like before other) :
    Core.ofSession before.session = Core.ofSession other.session
  settings {before other} (alike : like before other) : before.settings = other.settings
  world {before other} (alike : like before other) : worlds before.world other.world
  withWorld {before other world world'} (alike : like before other) (same : worlds world world') :
    like { before with world } { other with world := world' }
  inherited {world other} (alike : worlds world other) : world.environment = other.environment
  here {world other} (alike : worlds world other) : world.here = other.here
  clipboard {world other} (alike : worlds world other) : world.clipboard = other.clipboard
  withClipboard {world other} (clipboard : Clipboard) (alike : worlds world other) :
    worlds { world with clipboard } { other with clipboard }
  withJournal {world other} (journal journal' : List Message) (alike : worlds world other) :
    worlds { world with journal } { other with journal := journal' }
  enters (target : Text) : Related refusals worlds Eq (World.enter target) (World.enter target)
  shows_refl (notice : Notice) : shows notice notice
  shows_history {before other} (alike : like before other) :
    shows (.history before.session.history.entries) (.history other.session.history.entries)
  shows_refusal {fault fault'} (refused : refusals fault fault') (command lead : Text) :
    shows (.error command (lead ++ fault.message)) (.error command (lead ++ fault'.message))
  isFile_refusal {fault fault'} (refused : refusals fault fault') : fault.isFile = fault'.isFile
  same_refusal {fault fault'} (refused : refusals fault fault') (other : fault.isFile = false) :
    fault = fault'
  alternatives {before other} (alike : like before other) (name : Text) :
    Agree Eq (fun found found' => ∀ line,
        shows (.commandNotFound line name found) (.commandNotFound line name found'))
      (before.alternatives name) (other.alternatives name)
  displays {notice notice'} (same : shows notice notice') :
    Related Eq like Eq (display notice) (display notice')

namespace Likeness

variable (likeness : Likeness)

section Reads

variable {likeness} {before other : Shell} (alike : likeness.like before other)

include alike

theorem environment : before.session.environment = other.session.environment :=
  congrArg Core.environment (likeness.core alike)

theorem current : before.session.current = other.session.current :=
  congrArg Core.current (likeness.core alike)

theorem previous : before.session.previous = other.session.previous :=
  congrArg Core.previous (likeness.core alike)

theorem running : before.session.running = other.session.running :=
  congrArg Core.running (likeness.core alike)

theorem lastCode : before.session.lastCode = other.session.lastCode :=
  congrArg Core.lastCode (likeness.core alike)

theorem home : before.session.home before.world = other.session.home other.world := by
  simp only [Session.home, World.homeText?, environment alike, likeness.inherited (likeness.world alike)]

theorem expandPath (path : Text) :
    before.session.expandPath before.world path = other.session.expandPath other.world path := by
  simp only [Session.expandPath, home alike, current alike]

end Reads

/-- The likeness allows to change the cores of both sessions in this way. -/
def Allows (change : Core → Core) : Prop :=
  ∀ before other, likeness.like before other →
    likeness.like
      { before with session := (change (.ofSession before.session)).into before.session }
      { other with session := (change (.ofSession other.session)).into other.session }

structure Keeps : Prop extends SameFiles likeness.worlds where
  abbreviations {before other} (alike : likeness.like before other) :
    before.session.abbreviations = other.session.abbreviations
  withAbbreviations {before other} (table : Abbreviations) (alike : likeness.like before other) :
    likeness.like { before with session := { before.session with abbreviations := table } }
      { other with session := { other.session with abbreviations := table } }

def Starts : Prop :=
  ∀ before other words, likeness.like before other →
    let start : Launch := ⟨words, some other.session.current, other.session.environment⟩
    Related Eq likeness.worlds Eq (World.launch start) (World.launch start)

variable {likeness}

theorem related_inWorld {α β : Type} {faults : Fault → Fault → Prop} {values : α → β → Prop}
    {first : Act World α} {second : Act World β}
    (related : Related faults likeness.worlds values first second) :
    Related faults likeness.like values (inWorld first) (inWorld second) := by
  intro before other alike
  obtain ⟨agree, still⟩ := related before.world other.world (likeness.world alike)
  exact ⟨agree, likeness.withWorld alike still⟩

theorem related_record (level : Level) (source text : Text) :
    Related Eq likeness.worlds Eq (World.note level source text) (World.note level source text) :=
  .change fun _ _ alike => likeness.withJournal _ _ alike

theorem related_display (notice : Notice) :
    Related Eq likeness.like Eq (display notice) (display notice) :=
  likeness.displays (likeness.shows_refl notice)

theorem related_answer {α : Type} {notice notice' : Notice} (same : likeness.shows notice notice')
    (reply : α) :
    Related Eq likeness.like Eq (do display notice; return reply)
      (do display notice'; return reply) :=
  (likeness.displays same).next fun _ => .value rfl

theorem related_showEnvironment :
    Related Eq likeness.like Eq
      (do display (.environment (← get).session.environment.sorted); return Reply.status 0)
      (do display (.environment (← get).session.environment.sorted); return Reply.status 0) := by
  refine .bind .state fun before other alike => ?_
  rw [environment alike]
  exact related_answer (likeness.shows_refl _) _

theorem related_showFolder :
    Related Eq likeness.like Eq
      (do display (.output (← get).session.current); return Reply.status 0)
      (do display (.output (← get).session.current); return Reply.status 0) := by
  refine .bind .state fun before other alike => ?_
  rw [current alike]
  exact related_answer (likeness.shows_refl _) _

theorem related_runHistory (arguments : List Text) :
    Related Eq likeness.like Eq (runHistory arguments) (runHistory arguments) := by
  unfold runHistory
  refine .branch (fun _ => ?_) fun _ => .value rfl
  exact .bind .state fun before other alike => related_answer (likeness.shows_history alike) _

theorem related_runPaste : Related Eq likeness.like Eq runPaste runPaste := by
  unfold runPaste
  refine .bind .state fun before other alike => ?_
  rw [likeness.clipboard (likeness.world alike)]
  split
  · exact related_answer (likeness.shows_refl _) _
  · exact related_answer (likeness.shows_refl _) _

private theorem related_copy (text : Text) : Related Eq likeness.like Eq (copy text) (copy text) := by
  unfold copy
  refine .bind .state fun before other alike => ?_
  rw [likeness.clipboard (likeness.world alike)]
  split
  · exact related_answer (likeness.shows_refl _) _
  · refine .next (.change fun before other alike => ?_) fun _ => .value rfl
    exact likeness.withWorld alike (likeness.withClipboard _ (likeness.world alike))

/-- Copying, if all of standard input is the same where the command takes it. -/
theorem related_runCopy (arguments : List Text) (input : arguments = [] →
      Related Eq likeness.worlds Eq World.takeInput World.takeInput) :
    Related Eq likeness.like Eq (runCopy arguments) (runCopy arguments) := by
  rw [runCopy_eq]
  cases arguments with
  | nil => exact .next (related_inWorld (input rfl)) related_copy
  | cons word rest => exact .next (.value rfl) related_copy

section Files

variable (keeps : likeness.Keeps)

include keeps

private theorem related_save (table : Abbreviations) :
    Related Eq likeness.worlds Eq table.save table.save := by
  unfold Abbreviations.save
  split
  · exact .value rfl
  next file _ =>
    have written : Related Eq likeness.worlds Eq
        (do World.ensureFolders file.parent
            World.writeText file.text (Json.record table.table).indentedAscii)
        (do World.ensureFolders file.parent
            World.writeText file.text (Json.record table.table).indentedAscii) :=
      .next (keeps.related_ensureFolders _) fun _ => keeps.related_editAt _ _
    refine .bind written.attempt fun result result' agree => ?_
    cases agree with
    | value _ => exact .value rfl
    | fault same =>
      subst same
      exact .branch (fun _ => related_record _ _ _) fun _ => .fault rfl

theorem related_runAbbr (arguments : List Text) :
    Related Eq likeness.like Eq (runAbbr arguments) (runAbbr arguments) := by
  have keep (table : Abbreviations) : Related Eq likeness.like Eq
      (changeSession fun session => { session with abbreviations := table })
      (changeSession fun session => { session with abbreviations := table }) :=
    .change fun _ _ alike => keeps.withAbbreviations table alike
  unfold runAbbr
  refine .bind .state fun before other alike => ?_
  rw [keeps.abbreviations alike]
  split
  · exact related_answer (likeness.shows_refl _) _
  · refine .next (keep _) fun _ => ?_
    exact .next (related_inWorld (related_save keeps _)) fun _ => .value rfl
  · refine .next (keep _) fun _ => .branch (fun _ => ?_) fun _ => ?_
    · exact .next (related_inWorld (related_save keeps _)) fun _ => .value rfl
    · exact related_answer (likeness.shows_refl _) _
  · exact .value rfl

end Files

theorem related_change {change change' : Session → Session} {core : Core → Core}
    (allows : likeness.Allows core)
    (first : ∀ session, change session = (core (.ofSession session)).into session)
    (second : ∀ session, change' session = (core (.ofSession session)).into session) :
    Related Eq likeness.like Eq (changeSession change) (changeSession change') := by
  refine .change fun before other alike => ?_
  rw [first, second]
  exact allows before other alike

theorem related_setCode (allows : ∀ code, likeness.Allows fun core => { core with lastCode := code })
    (code : Int) : Related Eq likeness.like Eq (setCode code) (setCode code) :=
  related_change (allows code) (fun _ => rfl) fun _ => rfl

theorem related_runExit (allows : likeness.Allows fun core => { core with running := false })
    (arguments : List Text) :
    Related Eq likeness.like Eq (runExit arguments) (runExit arguments) := by
  have leave (code : Int) : Related Eq likeness.like Eq
      (do changeSession fun session => { session with running := false }; return Reply.status code)
      (do changeSession fun session => { session with running := false }; return .status code) :=
    (related_change allows (fun _ => rfl) fun _ => rfl).next fun _ => .value rfl
  unfold runExit
  split
  · refine .bind .state fun before other alike => ?_
    rw [lastCode alike]
    exact leave _
  · split
    · exact leave _
    · exact .value rfl
  · exact .value rfl

section Builtins

variable (allows : ∀ change, likeness.Allows change)

include allows

private theorem related_changeFolder (arguments : List Text) (target : Text) :
    Related Eq likeness.like Eq (changeFolder arguments target) (changeFolder arguments target) := by
  unfold changeFolder
  refine .bind .state fun before other alike => ?_
  dsimp only
  rw [current alike]
  refine .bind (related_inWorld (likeness.enters target)).attempt fun entered entered' agree => ?_
  cases agree with
  | value same =>
    refine .bind .state fun inside inside' alike => ?_
    have here := likeness.here (likeness.world alike)
    refine .next (related_change (allows fun core => { core with
      previous := some other.session.current, current := inside'.world.here
      environment := core.environment.set "PWD" inside'.world.here }) ?_ fun _ => rfl)
      fun _ => .value rfl
    intro session
    rw [← here]
    rfl
  | @fault fault fault' refused =>
    dsimp only
    rw [likeness.isFile_refusal refused]
    split
    next => exact related_answer (likeness.shows_refusal refused _ _) _
    next other => exact .fault (likeness.same_refusal refused
        ((likeness.isFile_refusal refused).trans (Bool.eq_false_iff.mpr other)))

private theorem related_runCd (arguments : List Text) :
    Related Eq likeness.like Eq (runCd arguments) (runCd arguments) := by
  have enter {target target' : Except Fault Text} (same : target = target') :
      Related Eq likeness.like Eq (do changeFolder arguments (← Act.ofExcept target))
        (do changeFolder arguments (← Act.ofExcept target')) := by
    exact .next (.given same) fun path => related_changeFolder allows arguments path
  unfold runCd
  refine .bind .state fun before other alike => ?_
  split
  · exact enter (home alike)
  · rw [previous alike]
    split
    · exact related_changeFolder allows _ _
    · exact related_answer (likeness.shows_refl _) _
  · exact enter (expandPath alike _)
  · exact .value rfl

private theorem related_runSet (arguments : List Text) :
    Related Eq likeness.like Eq (runSet arguments) (runSet arguments) := by
  have assigned (words : List Text) : Related Eq likeness.like Eq (assign words) (assign words) := by
    unfold assign
    split
    · refine .next ?_ fun _ => .value rfl
      exact related_change (allows fun core => { core with environment := core.environment.set _ _ })
        (fun _ => rfl) fun _ => rfl
    · exact .value rfl
  rw [runSet_eq]
  exact .branch (fun _ => related_showEnvironment) fun _ => assigned _

private theorem related_runExport (arguments : List Text) :
    Related Eq likeness.like Eq (runExport arguments) (runExport arguments) := by
  unfold runExport
  refine .branch (fun _ => related_showEnvironment) fun _ => ?_
  split
  · exact .value rfl
  · exact (related_change (allows fun core => { core with environment := core.environment.overlay _ })
      (fun _ => rfl) fun _ => rfl).next fun _ => .value rfl

private theorem related_runUnset (arguments : List Text) :
    Related Eq likeness.like Eq (runUnset arguments) (runUnset arguments) := by
  unfold runUnset
  refine .branch (fun _ => .value rfl) fun _ => .bind .state fun before other alike => ?_
  rw [environment alike]
  exact (related_change (allows fun core => { core with
    environment := arguments.foldl Table.erase core.environment }) (fun _ => rfl) fun _ => rfl).next
      fun _ => .value rfl

theorem related_runBuiltin (builtin : Builtin) (arguments : List Text)
    (abbr : builtin = .abbr → Related Eq likeness.like Eq (runAbbr arguments) (runAbbr arguments))
    (input : builtin = .pbcopy → arguments = [] →
      Related Eq likeness.worlds Eq World.takeInput World.takeInput) :
    Related Eq likeness.like Eq (runBuiltin builtin arguments) (runBuiltin builtin arguments) := by
  cases builtin with
  | abbr => exact abbr rfl
  | cd => exact related_runCd allows arguments
  | exit => exact related_runExit (allows _) arguments
  | «export» => exact related_runExport allows arguments
  | history => exact related_runHistory arguments
  | pbcopy => exact related_runCopy arguments (input rfl)
  | pbpaste => exact related_runPaste
  | pwd => exact related_showFolder
  | set => exact related_runSet allows arguments
  | unset => exact related_runUnset allows arguments

end Builtins

section Programs

variable {environment : Environment} {folder : Option Text}
  (starts : ∀ words, Related Eq likeness.worlds Eq (World.launch ⟨words, folder, environment⟩)
    (World.launch ⟨words, folder, environment⟩))

include starts

private theorem related_start (words : List Json) :
    Related Eq likeness.worlds Eq (Program.start words environment folder)
      (Program.start words environment folder) := by
  have refused (level : Level) (source text : Text) : Related Eq likeness.worlds Eq
      (do World.note level source text; return Program.notFoundCode)
      (do World.note level source text; return Program.notFoundCode) :=
    .next (related_record level source text) fun _ => .value rfl
  cases words with
  | nil => exact .value rfl
  | cons name rest =>
    refine .next (starts (name :: rest)) fun outcome => ?_
    cases outcome with
    | code code => exact .value rfl
    | refused problem =>
      cases problem with
      | notFound => exact .value rfl
      | _ => exact refused _ _ _
    | broken reason => exact refused _ _ _
    | fault fault => exact .fault rfl

private theorem related_startSuffixed (settings : Settings) (name : Text) (arguments : List Text)
    (suffixes : List Json) :
    Related Eq likeness.worlds Eq
      (Program.startSuffixed settings environment folder name arguments suffixes)
      (Program.startSuffixed settings environment folder name arguments suffixes) := by
  induction suffixes with
  | nil => exact .value rfl
  | cons suffix rest ih =>
    refine .next (.given rfl) fun words => .next (related_start starts words) fun code => ?_
    exact .branch (fun _ => ih) fun _ => .value rfl

private theorem related_run (settings : Settings) (name : Text) (arguments : List Text) :
    Related Eq likeness.worlds Eq (Program.run settings environment folder name arguments)
      (Program.run settings environment folder name arguments) := by
  refine .next (related_start starts _) fun code => ?_
  exact .branch (fun _ => related_startSuffixed starts settings name arguments _) fun _ => .value rfl

end Programs

theorem related_runProgram (starts : likeness.Starts) (name : Text) (arguments : List Text) :
    Related Eq likeness.like Eq (runProgram name arguments) (runProgram name arguments) := by
  refine .bind .state fun before other alike => ?_
  rw [likeness.settings alike, environment alike, current alike]
  refine .next (related_inWorld (related_run (starts before other · alike) _ name arguments))
    fun code => .branch (fun _ => ?_) fun _ => .value rfl
  refine .next (related_inWorld (related_record _ _ _)) fun _ => .bind .state fun before other alike => ?_
  exact (Related.result (likeness.alternatives alike name)).bind fun _ _ same =>
    related_answer (same _) _

/-- What is asked of a likeness so that a command tells no two shells apart. -/
structure Serves (likeness : Likeness) (command : Command) : Prop where
  allows (change : Core → Core) : likeness.Allows change
  starts : likeness.Starts
  abbr (called : Builtin.ofName? command.program = some .abbr) :
    Related Eq likeness.like Eq (runAbbr command.arguments) (runAbbr command.arguments)
  input (called : Builtin.ofName? command.program = some .pbcopy)
    (all : command.arguments = []) :
    Related Eq likeness.worlds Eq World.takeInput World.takeInput

theorem related_runCommand {command : Command} (serves : likeness.Serves command) :
    Related Eq likeness.like Eq (runCommand command) (runCommand command) := by
  unfold runCommand
  cases called : Builtin.ofName? command.program with
  | none => exact related_runProgram serves.starts _ _
  | some builtin =>
    refine .next (related_runBuiltin serves.allows builtin _ ?_ ?_) fun reply => ?_
    · rintro rfl
      exact serves.abbr called
    · rintro rfl
      exact serves.input called
    · cases reply with
      | status code => exact .value rfl
      | misuse usage => exact related_answer (likeness.shows_refl _) _

end Likeness

end CommandShell.Proofs
