import CommandShell.Proofs.Frames

/-! A line as the commands that run for it. -/

namespace CommandShell.Proofs.LineRuns
open ActSteps BuiltinParts Shell

def carry (command : Command) : Act Shell Unit := do
  if (← get).session.running then setCode (← runCommand command)

def carryOut (commands : List Command) : Act Shell Unit :=
  commands.foldlM (fun _ command => carry command) ()

def heads (job : Job) : List Command := job.pipelines.map (·.head)

/-- A command as it ran: the shell before it, what it gave, and the shell with that kept. -/
structure Stage where
  command : Command
  before : Shell
  result : Except Fault Int
  after : Shell

def Stage.from (shell : Shell) (command : Command) : Stage :=
  ⟨command, shell, ((runCommand command).on shell).1, ((carry command).on shell).2⟩

/-- The commands that run, in order. None runs once the session has ended or after a fault. -/
def stages : List Command → Shell → List Stage
  | [], _ => []
  | command :: rest, shell =>
    if shell.session.running then
      let stage := Stage.from shell command
      stage :: match stage.result with
        | .ok _ => stages rest stage.after
        | .error _ => []
    else []

def ending (shell : Shell) (run : List Stage) : Except Fault Unit × Shell :=
  match run.getLast? with
  | none => (.ok ⟨⟩, shell)
  | some stage => (stage.result.map fun _ => ⟨⟩, stage.after)

theorem carryOut_cons (command : Command) (rest : List Command) :
    carryOut (command :: rest) = carry command >>= fun _ => carryOut rest := rfl

private theorem carry_stopped {shell : Shell} (ended : shell.session.running = false) (command : Command) :
    (carry command).on shell = (.ok ⟨⟩, shell) := by
  simp only [carry, on_bind, on_get, ended, Bool.false_eq_true, if_false, on_pure]

theorem carry_running {shell : Shell} (runs : shell.session.running = true) (command : Command) :
    (carry command).on shell = (do setCode (← runCommand command)).on shell := by
  simp only [carry, on_bind, on_get, runs, if_true]

theorem carryOut_stopped {shell : Shell} (ended : shell.session.running = false)
    (commands : List Command) : (carryOut commands).on shell = (.ok ⟨⟩, shell) := by
  induction commands with
  | nil => rfl
  | cons command rest ih =>
    rw [carryOut_cons, on_bind, carry_stopped ended]
    exact ih

private theorem carryOut_running {shell : Shell} (runs : shell.session.running = true) (command : Command)
    (rest : List Command) :
    (carryOut (command :: rest)).on shell =
      (do setCode (← runCommand command); carryOut rest).on shell := by
  rw [carryOut_cons, on_bind, carry_running runs, ← on_bind, bind_assoc]

private theorem runPipelines_stopped {shell : Shell} (ended : shell.session.running = false)
    (pipelines : List Pipeline) : (runPipelines pipelines).on shell = (.ok ⟨⟩, shell) := by
  cases pipelines with
  | nil => rfl
  | cons pipeline rest =>
    simp only [runPipelines, on_bind, on_get, ended, Bool.false_eq_true, if_false, on_pure]

theorem runPipelines_running {shell : Shell} (runs : shell.session.running = true)
    (pipeline : Pipeline) (rest : List Pipeline) :
    (runPipelines (pipeline :: rest)).on shell =
      (do setCode (← runPipeline pipeline); runPipelines rest).on shell := by
  simp only [runPipelines, on_bind, on_get, runs, if_true]
  rfl

theorem carryOut_append (front rest : List Command) :
    carryOut (front ++ rest) = carryOut front >>= fun _ => carryOut rest :=
  List.foldlM_append ..

/-- Once the session has ended or a command has failed, the commands left change nothing. -/
theorem carryOut_stops (front rest : List Command) (shell : Shell)
    (stopped : (∃ fault, ((carryOut front).on shell).1 = .error fault) ∨
      ((carryOut front).on shell).2.session.running = false) :
    (carryOut (front ++ rest)).on shell = (carryOut front).on shell := by
  rw [carryOut_append, on_bind]
  generalize (carryOut front).on shell = ran at stopped ⊢
  obtain ⟨result, middle⟩ := ran
  cases result with
  | error fault => rfl
  | ok =>
    obtain ⟨fault, failed⟩ | ended := stopped
    · cases failed
    · exact carryOut_stopped ended rest

private theorem ending_cons (shell : Shell) {stage : Stage} {code : Int} (ran : stage.result = .ok code)
    (more : List Stage) : ending shell (stage :: more) = ending stage.after more := by
  simp only [ending, List.getLast?_cons]
  cases more.getLast? with
  | none => simp only [Option.getD_none, ran, Except.map]
  | some last => rfl

theorem Stage.from_value {shell after : Shell} {command : Command} {code : Int}
    (runs : shell.session.running = true) (ran : (runCommand command).on shell = (.ok code, after)) :
    Stage.from shell command =
      ⟨command, shell, .ok code, { after with session := { after.session with lastCode := code } }⟩ := by
  rw [Stage.from, carry_running runs, on_bind, ran]
  rfl

theorem Stage.from_fault {shell after : Shell} {command : Command} {fault : Fault}
    (runs : shell.session.running = true) (ran : (runCommand command).on shell = (.error fault, after)) :
    Stage.from shell command = ⟨command, shell, .error fault, after⟩ := by
  rw [Stage.from, carry_running runs, on_bind, ran]

theorem stages_running {shell : Shell} (runs : shell.session.running = true) (command : Command)
    (rest : List Command) :
    stages (command :: rest) shell =
      .from shell command :: match (Stage.from shell command).result with
        | .ok _ => stages rest (Stage.from shell command).after
        | .error _ => [] := by
  rw [stages, if_pos runs]

theorem carry_on {shell : Shell} (runs : shell.session.running = true) (command : Command) :
    let stage := Stage.from shell command
    (carry command).on shell = (stage.result.map fun _ => ⟨⟩, stage.after) := by
  rw [carry_running runs, on_bind]
  cases ran : (runCommand command).on shell with
  | mk result after =>
    cases result with
    | error fault =>
      rw [Stage.from_fault runs ran]
      rfl
    | ok code =>
      rw [Stage.from_value runs ran]
      rfl

theorem carryOut_on (commands : List Command) (shell : Shell) :
    (carryOut commands).on shell = ending shell (stages commands shell) := by
  induction commands generalizing shell with
  | nil => rfl
  | cons command rest ih =>
    by_cases runs : shell.session.running = true
    · rw [carryOut_cons, on_bind, carry_on runs, stages_running runs]
      generalize Stage.from shell command = stage
      cases ran : stage.result with
      | error fault => simp only [ending, ran, Except.map, List.getLast?_singleton]
      | ok code =>
        rw [ending_cons shell ran]
        exact ih stage.after
    · rw [carryOut_stopped (Bool.eq_false_iff.mpr runs), stages, if_neg runs]
      rfl

theorem stage_of_mem {commands : List Command} {shell : Shell} {stage : Stage}
    (inside : stage ∈ stages commands shell) :
    stage.before.session.running = true ∧ stage = .from stage.before stage.command := by
  induction commands generalizing shell with
  | nil => cases inside
  | cons command rest ih =>
    rw [stages] at inside
    split at inside
    next runs =>
      cases inside with
      | head => exact ⟨runs, rfl⟩
      | tail _ later =>
        split at later
        · exact ih later
        · cases later
    next => cases inside

theorem stages_front (commands : List Command) (shell : Shell) :
    (stages commands shell).map Stage.command <+: commands := by
  induction commands generalizing shell with
  | nil => exact List.nil_prefix
  | cons command rest ih =>
    rw [stages]
    split
    · refine (List.prefix_cons_inj command).mpr ?_
      split
      · exact ih _
      · exact List.nil_prefix
    · exact List.nil_prefix

def Logs {α : Type} (act : Act Shell α) (value : α) : Prop :=
  ∀ shell, ∃ journal, act.on shell = (.ok value, { shell with world := { shell.world with journal } })

theorem logs_value {α : Type} (value : α) : Logs (pure value) value :=
  fun shell => ⟨shell.world.journal, rfl⟩

theorem logs_note (level : Level) (source text : Text) : Logs (note level source text) ⟨⟩ :=
  fun _ => ⟨_, rfl⟩

theorem Logs.bind {α β : Type} {first : Act Shell α} {value : α} {next : α → Act Shell β} {result : β}
    (front : Logs first value) (rest : ∀ given, given = value → Logs (next given) result) :
    Logs (first >>= next) result := by
  intro shell
  obtain ⟨journal, ran⟩ := front shell
  obtain ⟨journal', ran'⟩ := rest value rfl { shell with world := { shell.world with journal } }
  exact ⟨journal', by rw [on_bind, ran]; exact ran'⟩

theorem Logs.each {α : Type} {body : α → PUnit → Act Shell (ForInStep PUnit)}
    (logs : ∀ item, Logs (body item ⟨⟩) (.yield ⟨⟩)) (items : List α) :
    Logs (forIn items ⟨⟩ body) ⟨⟩ := by
  induction items with
  | nil => exact logs_value _
  | cons item rest ih =>
    rw [List.forIn_cons]
    refine (logs item).bind fun given same => ?_
    subst same
    exact ih

private theorem logs_noteSigns (pipeline : Pipeline) : Logs (noteSigns pipeline) ⟨⟩ := by
  refine (Logs.each (fun command => ?_) pipeline.commands).bind fun _ _ => ?_
  · split
    · exact logs_value _
    · exact (logs_note _ _ _).bind fun _ _ => logs_value _
  · split
    · exact logs_note _ _ _
    · exact logs_value _

private theorem logs_notePipeline (pipeline : Pipeline) : Logs (notePipeline pipeline) ⟨⟩ := by
  rw [notePipeline_eq]
  split
  · exact logs_noteSigns pipeline
  · exact (logs_note _ _ _).bind fun _ _ => logs_noteSigns pipeline

private theorem logs_noteDiagnostics (line : Text) (diagnostics : List Diagnostic) :
    Logs (noteDiagnostics line diagnostics) ⟨⟩ := by
  have noted (level : Level) (source text : Text) :
      Logs (do note level source text; return ForInStep.yield PUnit.unit) (.yield ⟨⟩) :=
    (logs_note level source text).bind fun _ _ => logs_value _
  refine (Logs.each (fun _ => noted _ _ _) diagnostics).bind fun _ _ => ?_
  exact (Logs.each (fun _ => noted _ _ _) diagnostics).bind fun _ _ => logs_value _

theorem ofLine_of_some {line : Text} {job : Job} (read : (Job.ofLine line).toOption = some job) :
    Job.ofLine line = .ok job := by
  cases result : Job.ofLine line with
  | error unclosed =>
    rw [result] at read
    cases read
  | ok other =>
    rw [result] at read
    cases read
    rfl

/-- The commands that a line asks for: the first ones of its pipelines, and none if it is blank. -/
def commandsOf (line : Text) : List Command :=
  if (Text.trim line).isEmpty then []
  else match Job.ofLine line with
    | .ok job => heads job
    | .error _ => []

/-- What is shown when a fault ends a line: the user's wish to stop is no error. -/
def closing (line : Text) (fault : Fault) : Notice :=
  if fault.isFailure then .error line ("Error: " ++ fault.message) else .interrupt

def closingCode (fault : Fault) : Int := if fault.isFailure then 1 else interruptedCode

def settle (line : Text) : Except Fault Unit → Act Shell Unit
  | .ok () => return ()
  | .error fault => do
    display (closing line fault)
    setCode (closingCode fault)

/-- The work of a line, without what the journal is told of it. -/
def perform (line : Text) : Act Shell Int := do
  unless (Text.trim line).isEmpty do
    match Job.ofLine line with
    | .error unclosed =>
      display (.error line unclosed.message)
      setCode usageCode
    | .ok _ => settle line (← Act.attempt (carryOut (commandsOf line)))
  return (← get).session.lastCode

section Likenesses

variable {likeness : Likeness}

private theorem related_after_log {α β : Type} {values : α → β → Prop} {first : Act Shell Unit}
    {act : Act Shell α} {other : Act Shell β} (logs : Logs first ⟨⟩)
    (related : Related Eq likeness.like values act other) :
    Related Eq likeness.like values (first >>= fun _ => act) other := by
  refine .after (fun before after alike => ?_) related
  obtain ⟨journal, ran⟩ := logs before
  rw [ran]
  exact ⟨rfl, likeness.withWorld alike
    (likeness.withJournal journal after.world.journal (likeness.world alike))⟩

private theorem related_runPipeline {pipeline : Pipeline} (serves : likeness.Serves pipeline.head) :
    Related Eq likeness.like Eq (runPipeline pipeline) (runCommand pipeline.head) :=
  related_after_log (logs_notePipeline pipeline) (likeness.related_runCommand serves)

/-- Pipelines and their first commands do the same to shells that are alike, if no command that runs
tells them apart. -/
theorem runPipelines_matches (codes : ∀ code, likeness.Allows fun core => { core with lastCode := code })
    (pipelines : List Pipeline) {before other : Shell} (alike : likeness.like before other)
    (serves : ∀ stage ∈ stages (pipelines.map (·.head)) other, likeness.Serves stage.command) :
    Matches Eq likeness.like Eq (runPipelines pipelines) before
      (carryOut (pipelines.map (·.head))) other := by
  -- What the journal is told of a pipeline is no difference, so one pipeline matches one command.
  induction pipelines generalizing before other with
  | nil => exact ⟨.value rfl, alike⟩
  | cons pipeline rest ih =>
    have same := likeness.running alike
    unfold Matches
    by_cases runs : other.session.running = true
    · rw [List.map_cons, stages_running runs] at serves
      rw [List.map_cons, runPipelines_running (same.trans runs), carryOut_running runs]
      have first := related_runPipeline (serves _ List.mem_cons_self) before other alike
      refine first.bind fun same _ ran still => ?_
      subst same
      refine (likeness.related_setCode codes _ _ _ still).bind fun _ _ ran' still => ?_
      refine ih still fun stage inside => serves stage (List.mem_cons_of_mem _ ?_)
      obtain ⟨-, rfl⟩ := Prod.mk.inj ran'
      rw [Stage.from_value runs ran]
      exact inside
    · rw [runPipelines_stopped (same.trans (Bool.eq_false_iff.mpr runs)),
        carryOut_stopped (Bool.eq_false_iff.mpr runs)]
      exact ⟨.value rfl, alike⟩

/-- A line and the commands that it asks for do the same to shells that are alike, if no command that
runs tells them apart. -/
theorem execute_matches (codes : ∀ code, likeness.Allows fun core => { core with lastCode := code })
    (line : Text) {before other : Shell} (alike : likeness.like before other)
    (serves : ∀ stage ∈ stages (commandsOf line) other, likeness.Serves stage.command) :
    Matches Eq likeness.like Eq (execute line) before (perform line) other := by
  have last : Related Eq likeness.like Eq (do return (← get).session.lastCode : Act Shell Int)
      (do return (← get).session.lastCode) :=
    .bind .state fun _ _ alike => .value (likeness.lastCode alike)
  have setLast (code : Int) : Related Eq likeness.like Eq
      (do setCode code; return (← get).session.lastCode : Act Shell Int)
      (do setCode code; return (← get).session.lastCode) :=
    (likeness.related_setCode codes code).next fun _ => last
  unfold execute perform
  by_cases blank : (Text.trim line).isEmpty = true
  · rw [if_pos blank, if_pos blank]
    exact last before other alike
  · rw [if_neg blank, if_neg blank]
    cases read : Job.ofLine line with
    | error unclosed => exact (likeness.related_display _).next (fun _ => setLast _) before other alike
    | ok job =>
      have commands : commandsOf line = job.pipelines.map (·.head) := by
        rw [commandsOf, if_neg blank, read]
        rfl
      rw [commands] at serves ⊢
      obtain ⟨journal, noted⟩ := logs_noteDiagnostics line job.diagnostics before
      have alike : likeness.like { before with world := { before.world with journal } } other :=
        likeness.withWorld alike
          (likeness.withJournal journal other.world.journal (likeness.world alike))
      unfold Matches
      dsimp only
      rw [on_bind, noted]
      refine (runPipelines_matches codes job.pipelines alike serves).attempt.bind
        fun agree _ _ still => ?_
      cases agree with
      | value same => exact last _ _ still
      | @fault fault _ same =>
        subst same
        have shown (notice : Notice) (code : Int) := (likeness.related_display notice).next
          fun _ => setLast code
        cases failure : fault.isFailure with
        | true =>
          simp only [settle, closing, closingCode, failure, if_true, bind_assoc]
          exact related_after_log (logs_note _ _ _) (shown _ _) _ _ still
        | false =>
          simp only [settle, closing, closingCode, failure, Bool.false_eq_true, if_false, bind_assoc]
          exact shown _ _ _ _ still

theorem execute_alike (codes : ∀ code, likeness.Allows fun core => { core with lastCode := code })
    (line : Text) {before other : Shell} (alike : likeness.like before other)
    (serves : ∀ stage ∈ stages (commandsOf line) other, likeness.Serves stage.command) :
    Matches Eq likeness.like Eq (execute line) before (execute line) other := by
  have same : plainFrame.likeness.like other other := ⟨⟨other.world.journal, rfl⟩, trivial⟩
  obtain ⟨agree, still⟩ := execute_matches codes line alike serves
  obtain ⟨agree', ⟨journal, after⟩, -⟩ := execute_matches (fun _ => Frame.allows fun _ => trivial) line
    same fun stage _ => plainFrame_serves stage.command
  have equal : ((execute line).on other).1 = ((perform line).on other).1 := by
    generalize ((execute line).on other).1 = first at agree'
    generalize ((perform line).on other).1 = second at agree'
    cases agree' with
    | value same | fault same => rw [same]
  rw [after] at still
  unfold Matches
  rw [equal]
  -- The two runs on the right differ in their journals only.
  have last := likeness.withWorld still (likeness.withJournal
    ((execute line).on before).2.world.journal ((execute line).on other).2.world.journal
    (likeness.world still))
  exact ⟨agree, last⟩

private theorem related_carry (codes : ∀ code, likeness.Allows fun core => { core with lastCode := code })
    {command : Command} (serves : likeness.Serves command) :
    Related Eq likeness.like Eq (carry command) (carry command) := by
  refine .bind .state fun before other alike => ?_
  rw [likeness.running alike]
  refine .branch (fun _ => ?_) fun _ => .value rfl
  exact .next (likeness.related_runCommand serves) fun code => likeness.related_setCode codes code

end Likenesses

theorem carryOut_keeps {frame : Frame} (serves : ∀ command, frame.likeness.Serves command)
    (codes : ∀ code, frame.likeness.Allows fun core => { core with lastCode := code })
    (commands : List Command) {shell : Shell} (held : frame.holds shell) :
    frame.holds ((carryOut commands).on shell).2 := by
  have related : Related Eq frame.likeness.like Eq (carryOut commands) (carryOut commands) := by
    induction commands with
    | nil => exact .value rfl
    | cons command rest ih =>
      rw [carryOut_cons]
      exact .next (related_carry codes (serves command)) fun _ => ih
  exact frame.kept related held

theorem execute_keeps {frame : Frame} (serves : ∀ command, frame.likeness.Serves command)
    (codes : ∀ code, frame.likeness.Allows fun core => { core with lastCode := code }) (line : Text)
    {shell : Shell} (held : frame.holds shell) : frame.holds ((execute line).on shell).2 := by
  have same : frame.likeness.like shell shell := ⟨⟨shell.world.journal, rfl⟩, held⟩
  exact (execute_matches codes line same fun stage _ => serves stage.command).2.2

end CommandShell.Proofs.LineRuns
