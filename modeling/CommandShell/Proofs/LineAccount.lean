import CommandShell.Proofs.LineRuns

/-! What a line does, command by command: which programs it starts, with which environment and in
which folder, and the status that it leaves. -/

namespace CommandShell.Proofs.LineAccount
open ActSteps BuiltinParts Shell LineRuns

inductive Write
  | set (name value : Text)
  | erase (name : Text)
  deriving DecidableEq, Repr

namespace Write

def name : Write → Text
  | set name _ => name
  | erase name => name

def value? : Write → Option Text
  | set _ value => some value
  | erase _ => none

def apply (environment : Environment) : Write → Environment
  | set name value => Table.set environment name value
  | erase name => Table.erase environment name

private theorem get?_apply (environment : Environment) (write : Write) (name : Text) :
    Table.get? (apply environment write) name =
      if write.name = name then write.value? else Table.get? environment name := by
  cases write with
  | set key value => exact Table.get?_set environment key name value
  | erase key => exact Table.get?_erase environment key name

/-- The last write of a variable counts. -/
theorem get?_foldl (writes : List Write) (environment : Environment) (name : Text) :
    Table.get? (writes.foldl apply environment) name =
      match writes.reverse.find? (·.name = name) with
      | some write => write.value?
      | none => Table.get? environment name := by
  induction writes generalizing environment with
  | nil => rfl
  | cons write rest ih =>
    rw [List.foldl_cons, ih, List.reverse_cons, List.find?_append]
    cases rest.reverse.find? (·.name = name) with
    | some later => rfl
    | none =>
      rw [get?_apply]
      by_cases here : write.name = name
      · simp [here]
      · simp [here]

end Write

def wordWrites : List Text → List Write
  | name :: value :: values => [.set name (Text.join " " (value :: values))]
  | _ => []

/-- What a builtin writes. Entering a folder writes the folder, if that went well. -/
def writesOf (builtin : Builtin) (arguments : List Text) (well : Bool) (folder : Text) :
    List Write :=
  match builtin with
  | .set => wordWrites (setWords arguments)
  | .export => ((assignments? arguments).getD []).map fun (name, value) => .set name value
  | .unset => arguments.map .erase
  | .cd => if well then [.set "PWD" folder] else []
  | _ => []

def wentWell : Except Fault Int → Bool
  | .ok code => code = 0
  | .error _ => false

def commandWrites (command : Command) (result : Except Fault Int) (folder : Text) : List Write :=
  match Builtin.ofName? command.program with
  | some builtin => writesOf builtin command.arguments (wentWell result) folder
  | none => []

def writes (stage : Stage) : List Write :=
  commandWrites stage.command stage.result stage.after.session.current

def environmentFrame (environment : Environment) : Frame where
  holds shell := shell.session.environment = environment
  inside _ := True
  world _ := trivial
  withWorld held _ := held
  withScreen held _ := held
  withJournal _ _ := trivial
  withClipboard _ _ := trivial
  withFiles _ _ := trivial
  withInput _ _ := trivial

private theorem runProgram_environment (name : Text) (arguments : List Text) (shell : Shell) :
    ((runProgram name arguments).on shell).2.session.environment = shell.session.environment := by
  let frame := environmentFrame shell.session.environment
  have starts : frame.likeness.Starts := Frame.starts fun _ _ _ _ _ => trivial
  exact frame.kept (frame.likeness.related_runProgram starts name arguments) rfl

section Builtins

variable (arguments : List Text) (shell : Shell)

private theorem runSet_environment :
    ((runSet arguments).on shell).2.session.environment =
      (wordWrites (setWords arguments)).foldl Write.apply shell.session.environment := by
  have assigned (words : List Text) : ((assign words).on shell).2.session.environment =
      (wordWrites words).foldl Write.apply shell.session.environment := by
    cases words with
    | nil => rfl
    | cons name rest =>
      cases rest with
      | nil | cons => rfl
  rw [runSet_eq]
  cases arguments with
  | nil => exact (environmentFrame _).kept (environmentFrame _).likeness.related_showEnvironment rfl
  | cons first rest => exact assigned _

private theorem runExport_environment :
    ((runExport arguments).on shell).2.session.environment =
      (((assignments? arguments).getD []).map fun (name, value) => Write.set name value).foldl
        Write.apply shell.session.environment := by
  cases arguments with
  | nil => exact (environmentFrame _).kept (environmentFrame _).likeness.related_showEnvironment rfl
  | cons first rest =>
    simp only [runExport, List.isEmpty_cons, Bool.false_eq_true, if_false]
    cases assignments? (first :: rest) with
    | none => rfl
    | some assigned =>
      rw [Option.getD_some, List.foldl_map]
      rfl

private theorem runUnset_environment :
    ((runUnset arguments).on shell).2.session.environment =
      (arguments.map Write.erase).foldl Write.apply shell.session.environment := by
  cases arguments with
  | nil => rfl
  | cons first rest =>
    rw [List.foldl_map]
    rfl

def repliedWell : Except Fault Reply → Bool
  | .ok (.status code) => code = 0
  | _ => false

/-- The environment has the folder that the session is in now if a builtin went well, and is as it
was if not. -/
def Followed (ran : Except Fault Reply × Shell) : Prop :=
  ran.2.session.environment =
    if repliedWell ran.1 then Table.set shell.session.environment "PWD" ran.2.session.current
    else shell.session.environment

variable {shell}

private theorem followed_display (notice : Notice) {after : Shell}
    (same : after.session.environment = shell.session.environment) :
    Followed shell ((do display notice; return Reply.status 1 : Act Shell Reply).on after) := by
  simp only [display, on_bind, on_get, on_ofExcept]
  cases after.screen.present after.settings notice with
  | error fault => exact same
  | ok screen => exact same

private theorem changeFolder_followed (target : Text) :
    Followed shell ((changeFolder arguments target).on shell) := by
  simp only [changeFolder, on_bind, on_get, on_attempt, inWorld, on_part]
  generalize (World.enter target).on shell.world = ran
  obtain ⟨result, world⟩ := ran
  cases result with
  | ok => rfl
  | error fault =>
    dsimp only
    by_cases refused : fault.isFile = true
    · rw [if_pos refused]
      exact followed_display _ rfl
    · rw [if_neg refused]
      rfl

private theorem runCd_followed : Followed shell ((runCd arguments).on shell) := by
  have enter (target : Except Fault Text) :
      Followed shell ((do changeFolder arguments (← Act.ofExcept target)).on shell) := by
    rw [on_bind, on_ofExcept]
    cases target with
    | ok path => exact changeFolder_followed arguments path
    | error fault => rfl
  unfold runCd
  rw [on_bind, on_get]
  dsimp only
  split
  · exact enter _
  · split
    · exact changeFolder_followed _ _
    · exact followed_display _ rfl
  · exact enter _
  · rfl

variable (shell)

private theorem runBuiltin_environment (builtin : Builtin) :
    let ran := (runBuiltin builtin arguments).on shell
    ran.2.session.environment =
      (writesOf builtin arguments (repliedWell ran.1) ran.2.session.current).foldl Write.apply
        shell.session.environment := by
  let frame := environmentFrame shell.session.environment
  have keeps : frame.likeness.Keeps := Frame.keeps fun _ held => held
  cases builtin with
  | abbr => exact frame.kept (Likeness.related_runAbbr keeps arguments) rfl
  | cd =>
    have followed : Followed shell ((runBuiltin .cd arguments).on shell) := runCd_followed arguments
    simp only [Followed, writesOf] at followed ⊢
    by_cases well : repliedWell ((runBuiltin .cd arguments).on shell).1 = true
    · rw [if_pos well] at followed ⊢
      exact followed
    · rw [if_neg well] at followed ⊢
      exact followed
  | exit => exact frame.kept (Likeness.related_runExit (Frame.allows fun held => held) arguments) rfl
  | «export» => exact runExport_environment arguments shell
  | history => exact frame.kept (frame.likeness.related_runHistory arguments) rfl
  | pbcopy => exact frame.kept (Likeness.related_runCopy arguments fun _ => Frame.related_takeInput) rfl
  | pbpaste => exact frame.kept frame.likeness.related_runPaste rfl
  | pwd => exact frame.kept frame.likeness.related_showFolder rfl
  | set => exact runSet_environment arguments shell
  | unset => exact runUnset_environment arguments shell

end Builtins

theorem runCommand_builtin {command : Command} {builtin : Builtin}
    (called : Builtin.ofName? command.program = some builtin) (shell : Shell) :
    let ran := (runCommand command).on shell
    let replied := (runBuiltin builtin command.arguments).on shell
    wentWell ran.1 = repliedWell replied.1 ∧ ∃ screen, ran.2 = { replied.2 with screen } := by
  unfold runCommand
  rw [called]
  dsimp only
  rw [on_bind]
  generalize (runBuiltin builtin command.arguments).on shell = replied
  obtain ⟨result, after⟩ := replied
  match result with
  | .error fault => exact ⟨rfl, after.screen, rfl⟩
  | .ok (.status code) => exact ⟨rfl, after.screen, rfl⟩
  | .ok (.misuse usage) =>
    simp only [display, on_bind, on_get, on_ofExcept]
    cases after.screen.present after.settings _ with
    | error fault => exact ⟨rfl, after.screen, rfl⟩
    | ok screen => exact ⟨rfl, screen, rfl⟩

private theorem runCommand_environment (command : Command) (shell : Shell) :
    let ran := (runCommand command).on shell
    ran.2.session.environment =
      (commandWrites command ran.1 ran.2.session.current).foldl Write.apply
        shell.session.environment := by
  unfold commandWrites
  cases called : Builtin.ofName? command.program with
  | none =>
    unfold runCommand
    rw [called]
    exact runProgram_environment _ _ shell
  | some builtin =>
    obtain ⟨well, screen, after⟩ := runCommand_builtin called shell
    dsimp only
    rw [well, after]
    exact runBuiltin_environment command.arguments shell builtin

private theorem stage_environment {shell : Shell} (runs : shell.session.running = true) (command : Command) :
    (Stage.from shell command).after.session.environment =
      (writes (.from shell command)).foldl Write.apply shell.session.environment := by
  have written := runCommand_environment command shell
  cases ran : (runCommand command).on shell with
  | mk result after =>
    rw [ran] at written
    cases result with
    | error fault =>
      rw [Stage.from_fault runs ran]
      exact written
    | ok code =>
      rw [Stage.from_value runs ran]
      exact written

def launchesFrame (launches : List Launch) : Frame where
  holds shell := shell.world.launches = launches
  inside world := world.launches = launches
  world held := held
  withWorld _ held := held
  withScreen held _ := held
  withJournal _ held := held
  withClipboard _ held := held
  withFiles _ held := held
  withInput _ held := held

private theorem runBuiltin_launches (builtin : Builtin) (arguments : List Text) (shell : Shell) :
    ((runBuiltin builtin arguments).on shell).2.world.launches = shell.world.launches := by
  let frame := launchesFrame shell.world.launches
  have keeps : frame.likeness.Keeps := Frame.keeps fun _ held => held
  have related : Related Eq frame.likeness.like Eq (runBuiltin builtin arguments)
      (runBuiltin builtin arguments) :=
    Likeness.related_runBuiltin (fun _ => Frame.allows fun held => held) builtin arguments
      (fun _ => Likeness.related_runAbbr keeps arguments) fun _ _ => Frame.related_takeInput
  exact frame.kept related rfl

def Started (environment : Environment) (folder : Text) (old new : List Launch) : Prop :=
  ∃ started, new = started ++ old ∧
    ∀ launch ∈ started, launch.environment = environment ∧ launch.folder = some folder

theorem Started.cons {environment : Environment} {folder : Text} {old new : List Launch}
    (before : Started environment folder old new) (words : List Json) :
    Started environment folder old (⟨words, some folder, environment⟩ :: new) := by
  obtain ⟨started, rfl, each⟩ := before
  refine ⟨⟨words, some folder, environment⟩ :: started, rfl, fun launch inside => ?_⟩
  cases inside with
  | head => exact ⟨rfl, rfl⟩
  | tail _ earlier => exact each launch earlier

def startsFrame (environment : Environment) (folder : Text) (launches : List Launch) : Frame where
  holds shell := shell.session.environment = environment ∧ shell.session.current = folder ∧
    Started environment folder launches shell.world.launches
  inside world := Started environment folder launches world.launches
  world held := held.2.2
  withWorld held held' := ⟨held.1, held.2.1, held'⟩
  withScreen held _ := held
  withJournal _ held := held
  withClipboard _ held := held
  withFiles _ held := held
  withInput _ held := held

private theorem runProgram_launches (name : Text) (arguments : List Text) (shell : Shell) :
    Started shell.session.environment shell.session.current shell.world.launches
      ((runProgram name arguments).on shell).2.world.launches := by
  let frame :=
    startsFrame shell.session.environment shell.session.current shell.world.launches
  have starts : frame.likeness.Starts := by
    refine Frame.starts fun other world words held held' => ?_
    obtain ⟨environment, folder, -⟩ := held
    rw [environment, folder]
    exact Started.cons held' words
  exact (frame.kept (frame.likeness.related_runProgram starts name arguments)
    ⟨rfl, rfl, [], rfl, nofun⟩).2.2

/-- A command starts nothing if it is a builtin, and else only in the folder and with the environment
of the session. -/
theorem runCommand_launches (command : Command) (shell : Shell) :
    let launches := ((runCommand command).on shell).2.world.launches
    match Builtin.ofName? command.program with
    | some _ => launches = shell.world.launches
    | none =>
      Started shell.session.environment shell.session.current shell.world.launches launches := by
  cases called : Builtin.ofName? command.program with
  | none =>
    unfold runCommand
    rw [called]
    exact runProgram_launches _ _ shell
  | some builtin =>
    obtain ⟨-, screen, after⟩ := runCommand_builtin called shell
    dsimp only
    rw [after]
    exact runBuiltin_launches builtin command.arguments shell

theorem stage_launches {shell : Shell} (runs : shell.session.running = true) (command : Command) :
    (Stage.from shell command).after.world.launches =
      ((runCommand command).on shell).2.world.launches := by
  cases ran : (runCommand command).on shell with
  | mk result after =>
    cases result with
    | error fault => rw [Stage.from_fault runs ran]
    | ok code => rw [Stage.from_value runs ran]

/-- What a program is started with by a command that comes behind others: the folder that the session
is in before that command, and the first environment with what the others wrote, where the last write
of a variable counts. -/
structure StartedBy (environment : Environment) (front : List Stage) (stage : Stage)
    (launch : Launch) : Prop where
  program : Builtin.ofName? stage.command.program = none
  folder : launch.folder = some stage.before.session.current
  inherited : launch.environment = (front.flatMap writes).foldl Write.apply environment
  latest (name : Text) : Table.get? launch.environment name =
    match (front.flatMap writes).reverse.find? (·.name = name) with
    | some write => write.value?
    | none => Table.get? environment name

def StartedIn (environment : Environment) (run : List Stage) (launch : Launch) : Prop :=
  ∃ front stage rest, run = front ++ stage :: rest ∧ StartedBy environment front stage launch

private theorem startedBy {environment : Environment} {front : List Stage} {stage : Stage} {launch : Launch}
    (program : Builtin.ofName? stage.command.program = none)
    (folder : launch.folder = some stage.before.session.current)
    (inherited : launch.environment = (front.flatMap writes).foldl Write.apply environment) :
    StartedBy environment front stage launch where
  program := program
  folder := folder
  inherited := inherited
  latest name := by
    rw [inherited]
    exact Write.get?_foldl _ environment name

theorem StartedIn.cons {shell : Shell} {command : Command} (runs : shell.session.running = true)
    {run : List Stage} {launch : Launch}
    (started : StartedIn (Stage.from shell command).after.session.environment run launch) :
    StartedIn shell.session.environment (.from shell command :: run) launch := by
  obtain ⟨front, stage, rest, rfl, start⟩ := started
  refine ⟨.from shell command :: front, stage, rest, rfl, startedBy start.program start.folder ?_⟩
  rw [start.inherited, stage_environment runs, List.flatMap_cons, List.foldl_append]

private theorem stage_starts {shell : Shell} (runs : shell.session.running = true) (command : Command)
    (later : List Stage) :
    ∃ started, (Stage.from shell command).after.world.launches = started ++ shell.world.launches ∧
      ∀ launch ∈ started,
        StartedIn shell.session.environment (.from shell command :: later) launch := by
  have launches := runCommand_launches command shell
  rw [stage_launches runs]
  cases called : Builtin.ofName? command.program with
  | some builtin =>
    rw [called] at launches
    exact ⟨[], launches, nofun⟩
  | none =>
    rw [called] at launches
    obtain ⟨started, same, each⟩ := launches
    refine ⟨started, same, fun launch inside => ?_⟩
    obtain ⟨environment, folder⟩ := each launch inside
    exact ⟨[], _, _, rfl, startedBy called folder environment⟩

/-- Every start belongs to one of the commands that run. -/
theorem carryOut_launches (commands : List Command) (shell : Shell) :
    ∃ started, ((carryOut commands).on shell).2.world.launches = started ++ shell.world.launches ∧
      ∀ launch ∈ started, StartedIn shell.session.environment (stages commands shell) launch := by
  induction commands generalizing shell with
  | nil => exact ⟨[], rfl, nofun⟩
  | cons command rest ih =>
    by_cases runs : shell.session.running = true
    · rw [carryOut_cons, on_bind, carry_on runs, stages_running runs]
      cases ran : (Stage.from shell command).result with
      | error fault => exact stage_starts runs command []
      | ok code =>
        obtain ⟨started, same, each⟩ :=
          stage_starts runs command (stages rest (Stage.from shell command).after)
        obtain ⟨more, same', each'⟩ := ih (Stage.from shell command).after
        -- The newest starts stand in front, and those of the first command are the oldest.
        refine ⟨more ++ started, ?_, fun launch inside => ?_⟩
        · rw [List.append_assoc, ← same]
          exact same'
        · obtain later | earlier := List.mem_append.mp inside
          · exact .cons runs (each' launch later)
          · exact each launch earlier
    · rw [carryOut_stopped (Bool.eq_false_iff.mpr runs)]
      exact ⟨[], rfl, nofun⟩

/-- The shell `last` that a line leaves, but for its journal, when its commands led to `shell` with a
result. -/
inductive Settled (line : Text) (shell last : Shell) : Except Fault Unit → Prop
  | done {journal} (same : last = { shell with world := { shell.world with journal } }) :
      Settled line shell last (.ok ⟨⟩)
  | fault {fault screen journal}
      (shown : shell.screen.present shell.settings (closing line fault) = .ok screen)
      (same : last = { shell with
        screen, session := { shell.session with lastCode := closingCode fault }
        world := { shell.world with journal } }) :
      Settled line shell last (.error fault)

/-- What is shown if a fault ends a line can be shown. -/
def Closes (line : Text) (ran : Except Fault Unit × Shell) : Prop :=
  ∀ fault, ran.1 = .error fault →
    ∃ screen, ran.2.screen.present ran.2.settings (closing line fault) = .ok screen

def lastCode (former : Int) (run : List Stage) : Int :=
  match run.getLast? with
  | none => former
  | some stage =>
    match stage.result with
    | .ok code => code
    | .error fault => closingCode fault

/-- What a line must do that asks for commands. -/
structure Account (line : Text) (commands : List Command) (shell : Shell) : Prop where
  /-- The line gives the status of the session, and no fault gets out of it. -/
  returned : ((execute line).on shell).1 = .ok ((execute line).on shell).2.session.lastCode
  /-- The line does what its commands do from the first to the last, and then settles a fault. -/
  settled : Settled line ((carryOut commands).on shell).2 ((execute line).on shell).2
    ((carryOut commands).on shell).1
  /-- The commands stop once the session has ended, and at a fault. -/
  stops (front rest : List Command) (parts : commands = front ++ rest)
    (stopped : (∃ fault, ((carryOut front).on shell).1 = .error fault) ∨
      ((carryOut front).on shell).2.session.running = false) :
    (carryOut commands).on shell = (carryOut front).on shell
  /-- Redirects change nothing. -/
  redirects : carryOut commands = carryOut (commands.map fun command => { command with redirects := [] })
  /-- The commands that run are the first ones, and what they lead to is what the last one left. -/
  order : (stages commands shell).map Stage.command <+: commands
  ended : (carryOut commands).on shell = ending shell (stages commands shell)
  /-- The status is that of the last command that ran, and the former one if none did. -/
  code : ((execute line).on shell).2.session.lastCode =
    lastCode shell.session.lastCode (stages commands shell)
  /-- A builtin starts nothing. -/
  builtins (stage : Stage) (ran : stage ∈ stages commands shell)
    (builtin : Builtin.ofName? stage.command.program ≠ none) :
    stage.after.world.launches = stage.before.world.launches
  /-- Every start belongs to a command that ran. -/
  starts : ∃ started,
    ((execute line).on shell).2.world.launches = started ++ shell.world.launches ∧
      ∀ launch ∈ started, StartedIn shell.session.environment (stages commands shell) launch

private theorem settle_on {line : Text} {result : Except Fault Unit} {shell : Shell}
    (closes : Closes line (result, shell)) (journal : List Message) :
    ((settle line result).on shell).1 = .ok ⟨⟩ ∧
      Settled line shell { ((settle line result).on shell).2 with
        world := { ((settle line result).on shell).2.world with journal } } result := by
  cases result with
  | ok => exact ⟨rfl, .done rfl⟩
  | error fault =>
    obtain ⟨screen, shown⟩ := closes fault rfl
    simp only [settle, display, on_bind, on_get, on_ofExcept]
    rw [shown]
    exact ⟨rfl, .fault shown rfl⟩

theorem perform_on {line : Text} {job : Job} (read : Job.ofLine line = .ok job) (shell : Shell) :
    (perform line).on shell =
      (do settle line ((carryOut (commandsOf line)).on shell).1
          return (← get).session.lastCode : Act Shell Int).on
        ((carryOut (commandsOf line)).on shell).2 := by
  unfold perform
  by_cases blank : (Text.trim line).isEmpty = true
  · rw [if_pos blank, commandsOf, if_pos blank]
    rfl
  · rw [if_neg blank, read]
    rfl

theorem execute_settled {line : Text} {job : Job} (read : Job.ofLine line = .ok job) {shell : Shell}
    (closes : Closes line ((carryOut (commandsOf line)).on shell)) :
    ((execute line).on shell).1 = .ok ((execute line).on shell).2.session.lastCode ∧
      Settled line ((carryOut (commandsOf line)).on shell).2 ((execute line).on shell).2
        ((carryOut (commandsOf line)).on shell).1 := by
  have same : plainFrame.likeness.like shell shell := ⟨⟨shell.world.journal, rfl⟩, trivial⟩
  obtain ⟨agree, ⟨journal, after⟩, -⟩ := execute_matches (fun _ => Frame.allows fun _ => trivial) line
    same fun stage _ => plainFrame_serves stage.command
  rw [perform_on read, on_bind] at agree after
  generalize (execute line).on shell = ran at agree after ⊢
  generalize (carryOut (commandsOf line)).on shell = folded at closes agree after ⊢
  obtain ⟨result, middle⟩ := folded
  obtain ⟨value, final⟩ := ran
  obtain ⟨settled, last⟩ := settle_on closes final.world.journal
  dsimp only at agree after ⊢
  generalize (settle line result).on middle = ending at agree after settled last
  obtain ⟨ended, shell'⟩ := ending
  dsimp only at settled last
  subst settled
  dsimp only [on_bind, on_get, on_pure] at agree after
  subst after
  cases agree with
  | value same => exact ⟨congrArg Except.ok same, last⟩

private theorem stage_lastCode {commands : List Command} {shell : Shell} {stage : Stage}
    (inside : stage ∈ stages commands shell) {code : Int} (gave : stage.result = .ok code) :
    stage.after.session.lastCode = code := by
  obtain ⟨runs, same⟩ := stage_of_mem inside
  rw [same] at gave ⊢
  cases ran : (runCommand stage.command).on stage.before with
  | mk result after =>
    cases result with
    | error fault =>
      rw [Stage.from_fault runs ran] at gave
      cases gave
    | ok code' =>
      rw [Stage.from_value runs ran] at gave ⊢
      exact Except.ok.inj gave

theorem Settled.lastCode {line : Text} {commands : List Command} {shell last : Shell}
    (settled : Settled line ((carryOut commands).on shell).2 last ((carryOut commands).on shell).1) :
    last.session.lastCode = lastCode shell.session.lastCode (stages commands shell) := by
  rw [carryOut_on] at settled
  unfold ending at settled
  unfold LineAccount.lastCode
  cases newest : (stages commands shell).getLast? with
  | none =>
    rw [newest] at settled
    cases settled with
    | done same => rw [same]
  | some stage =>
    rw [newest] at settled
    dsimp only at settled ⊢
    cases gave : stage.result with
    | ok code =>
      rw [gave] at settled
      cases settled with
      | done same =>
        rw [same]
        exact stage_lastCode (List.mem_of_getLast? newest) gave
    | error fault =>
      rw [gave] at settled
      cases settled with
      | fault shown same => rw [same]

theorem Settled.launches {line : Text} {shell last : Shell} {result : Except Fault Unit}
    (settled : Settled line shell last result) : last.world.launches = shell.world.launches := by
  cases settled with
  | done same => rw [same]
  | fault shown same => rw [same]

private theorem stage_builtin {commands : List Command} {shell : Shell} {stage : Stage}
    (inside : stage ∈ stages commands shell) {builtin : Builtin}
    (called : Builtin.ofName? stage.command.program = some builtin) :
    stage.after.world.launches = stage.before.world.launches := by
  obtain ⟨runs, same⟩ := stage_of_mem inside
  have launches := runCommand_launches stage.command stage.before
  rw [called] at launches
  rw [same]
  exact (stage_launches runs stage.command).trans launches

/-- A line that can be read does what its commands do, the first one of each pipeline, one after the
other until the session ends or a command fails; and it always gives the status of the session. -/
theorem execute_account {line : Text} {job : Job} (read : Job.ofLine line = .ok job) (shell : Shell)
    (closes : Closes line ((carryOut (commandsOf line)).on shell)) :
    Account line (commandsOf line) shell := by
  obtain ⟨returned, settled⟩ := execute_settled read closes
  refine ⟨returned, settled, ?_, ?_, stages_front _ _, carryOut_on _ _, settled.lastCode, ?_, ?_⟩
  · intro front rest parts stopped
    rw [parts]
    exact carryOut_stops front rest shell stopped
  · rw [carryOut, carryOut, List.foldlM_map]
    rfl
  · intro stage inside builtin
    obtain ⟨builtin, called⟩ := Option.ne_none_iff_exists'.mp builtin
    exact stage_builtin inside called
  · rw [settled.launches]
    exact carryOut_launches _ shell

theorem account_of_exit_line :
    Job.ofLine "set A 1; run | wc >f; exit 3; ls" =
      .ok ⟨[⟨⟨"set", ["A", "1"], []⟩, [], false⟩,
        ⟨⟨"run", [], []⟩, [⟨"wc", [], [⟨.write, "f"⟩]⟩], false⟩,
        ⟨⟨"exit", ["3"], []⟩, [], false⟩, ⟨⟨"ls", [], []⟩, [], false⟩], []⟩ ∧
    Closes "set A 1; run | wc >f; exit 3; ls"
      ((carryOut (commandsOf "set A 1; run | wc >f; exit 3; ls")).on bareShell) ∧
    Account "set A 1; run | wc >f; exit 3; ls"
      (commandsOf "set A 1; run | wc >f; exit 3; ls") bareShell := by
  have read : Job.ofLine "set A 1; run | wc >f; exit 3; ls" =
      .ok ⟨[⟨⟨"set", ["A", "1"], []⟩, [], false⟩,
        ⟨⟨"run", [], []⟩, [⟨"wc", [], [⟨.write, "f"⟩]⟩], false⟩,
        ⟨⟨"exit", ["3"], []⟩, [], false⟩, ⟨⟨"ls", [], []⟩, [], false⟩], []⟩ := ofLine_of_some (by decide +kernel)
  have commands : commandsOf "set A 1; run | wc >f; exit 3; ls" =
      [⟨"set", ["A", "1"], []⟩, ⟨"run", [], []⟩, ⟨"exit", ["3"], []⟩, ⟨"ls", [], []⟩] := by
    decide +kernel
  have closes : Closes "set A 1; run | wc >f; exit 3; ls"
      ((carryOut (commandsOf "set A 1; run | wc >f; exit 3; ls")).on bareShell) := by
    rw [commands]
    intro fault failed
    cases failed
  exact ⟨read, closes, execute_account read bareShell closes⟩

/-- A line of blanks that separate no words is read as a program's name, but it starts nothing. -/
theorem blank_name_starts_nothing :
    Job.ofLine ['\u00a0'] = .ok ⟨[⟨⟨['\u00a0'], [], []⟩, [], false⟩], []⟩ ∧
    ((carryOut [⟨['\u00a0'], [], []⟩]).on bareShell).2.world.launches.length = 1 ∧
    ((execute ['\u00a0']).on bareShell).2.world.launches = [] :=
  ⟨ofLine_of_some (by decide +kernel), rfl, rfl⟩

end CommandShell.Proofs.LineAccount
