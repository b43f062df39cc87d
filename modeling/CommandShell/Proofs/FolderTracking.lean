import CommandShell.Proofs.AbbreviationRuns
import CommandShell.Proofs.FolderKeeping
import CommandShell.Proofs.FolderMoves
import CommandShell.Proofs.LineAccount
import CommandShell.Proofs.SessionStart
import CommandShell.Proofs.StandingFolders

/-! The current folder of a session over a run of lines. It is the folder of the process, programs start
in it, and the one before it is where the latest `cd` that went well was called. -/

namespace CommandShell.Proofs.FolderTracking
open ActSteps Shell FolderKeeping FolderMoves LineAccount LineRuns StandingFolders

/-- What a line shows, its status, and what the journal is told make no difference. -/
def Alike (shell other : Shell) : Prop :=
  ∃ screen lastCode journal, other = { shell with
    screen
    session := { shell.session with lastCode }
    world := { shell.world with journal } }

theorem Alike.refl (shell : Shell) : Alike shell shell := ⟨_, _, _, rfl⟩

theorem Alike.trans {first second third : Shell} (alike : Alike first second) (alike' : Alike second third) :
    Alike first third := by
  obtain ⟨_, _, _, rfl⟩ := alike
  obtain ⟨_, _, _, rfl⟩ := alike'
  exact ⟨_, _, _, rfl⟩

private theorem alike_closing (shell : Shell) (notice : Notice) (code : Int) :
    Alike shell ((do display notice; setCode code; return (← get).session.lastCode : Act Shell Int).on shell).2 := by
  simp only [display, setCode, changeSession, on_bind, on_get, on_ofExcept]
  cases shell.screen.present shell.settings notice with
  | error fault => exact .refl shell
  | ok screen => exact ⟨screen, code, shell.world.journal, rfl⟩

private theorem perform_alike (line : Text) (shell : Shell) :
    Alike ((carryOut (commandsOf line)).on shell).2 ((perform line).on shell).2 := by
  cases read : Job.ofLine line with
  | error unclosed =>
    have none : commandsOf line = [] := by
      unfold commandsOf
      rw [read]
      split <;> rfl
    rw [none]
    unfold perform
    split
    · exact .refl shell
    · rw [read]
      exact alike_closing shell _ _
  | ok job =>
    rw [perform_on read]
    generalize (carryOut (commandsOf line)).on shell = ran
    obtain ⟨result, after⟩ := ran
    cases result with
    | ok => exact .refl after
    | error fault =>
      dsimp only [settle]
      rw [bind_assoc]
      exact alike_closing after _ _

private theorem execute_alike_carried (line : Text) (shell : Shell) :
    Alike ((carryOut (commandsOf line)).on shell).2 ((execute line).on shell).2 := by
  have same : plainFrame.likeness.like shell shell := ⟨⟨shell.world.journal, rfl⟩, trivial⟩
  obtain ⟨-, ⟨journal, after⟩, -⟩ := execute_matches (fun _ => Frame.allows fun _ => trivial) line same
    fun stage _ => plainFrame_serves stage.command
  refine (perform_alike line shell).trans ?_
  rw [after]
  exact ⟨_, _, _, rfl⟩

def afterLines (lines : List Text) (shell : Shell) : Shell :=
  lines.foldl (fun shell line => ((execute line).on shell).2) shell

def course : List Text → Shell → List Stage
  | [], _ => []
  | line :: rest, shell => stages (commandsOf line) shell ++ course rest ((execute line).on shell).2

structure Ran (stage : Stage) : Prop where
  runs : stage.before.session.running = true
  same : stage = .from stage.before stage.command

inductive Linked : Shell → List Stage → Shell → Prop
  | done {shell last} (alike : Alike shell last) : Linked shell [] last
  | next {shell stage run last} (alike : Alike shell stage.before) (ran : Ran stage)
      (rest : Linked stage.after run last) : Linked shell (stage :: run) last

theorem Linked.append {shell between last : Shell} {front back : List Stage} (first : Linked shell front between)
    (second : Linked between back last) : Linked shell (front ++ back) last := by
  induction first with
  | done alike =>
    cases second with
    | done alike' => exact .done (alike.trans alike')
    | next alike' ran rest => exact .next (alike.trans alike') ran rest
  | next alike ran _ ih => exact .next alike ran (ih second)

theorem Linked.split {shell last : Shell} {front back : List Stage} (linked : Linked shell (front ++ back) last) :
    ∃ between, Linked shell front between ∧ Linked between back last := by
  induction front generalizing shell with
  | nil => exact ⟨shell, .done (.refl shell), linked⟩
  | cons stage front ih =>
    cases linked with
    | next alike ran rest =>
      obtain ⟨between, first, second⟩ := ih rest
      exact ⟨between, .next alike ran first, second⟩

private theorem linked_stages (commands : List Command) (shell : Shell) :
    Linked shell (stages commands shell) ((carryOut commands).on shell).2 := by
  induction commands generalizing shell with
  | nil => exact .done (.refl shell)
  | cons command rest ih =>
    by_cases runs : shell.session.running = true
    · rw [stages_running runs, carryOut_cons, on_bind, carry_on runs]
      refine .next (.refl shell) ⟨runs, rfl⟩ ?_
      cases (Stage.from shell command).result with
      | error fault => exact .done (.refl _)
      | ok code => exact ih _
    · rw [carryOut_stopped (Bool.eq_false_iff.mpr runs), stages, if_neg runs]
      exact .done (.refl shell)

private theorem linked_course (lines : List Text) (shell : Shell) :
    Linked shell (course lines shell) (afterLines lines shell) := by
  induction lines generalizing shell with
  | nil => exact .done (.refl shell)
  | cons line rest ih =>
    refine .append ?_ (ih _)
    have settled : Linked ((carryOut (commandsOf line)).on shell).2 [] ((execute line).on shell).2 :=
      .done (execute_alike_carried line shell)
    have run := (linked_stages (commandsOf line) shell).append settled
    rwa [List.append_nil] at run

def goesWell (stage : Stage) : Bool := stage.command.program = "cd" && wentWell stage.result

/-- What a command that ran can have done to the folders. -/
inductive Outcome (stage : Stage) : Prop
  | moved {target files} (well : goesWell stage = true)
      (asks : Asks stage.before stage.command.arguments target)
      (enters : stage.before.world.files.enter target = .ok files)
      (alike : Alike (movedTo stage.before files) stage.after)
  | refused (failed : goesWell stage = false) (alike : Alike stage.before stage.after)
  | other (other : stage.command.program ≠ "cd") (failed : goesWell stage = false)
      (stays : Stays stage.before stage.after)

private theorem cd_of_name {word : Text} : Builtin.ofName? word = some .cd ↔ word = "cd" := by
  refine ⟨fun called => ?_, fun same => ?_⟩
  · have named := List.find?_some called
    exact (of_decide_eq_true named).symm
  · rw [same]
    decide

private theorem stage_alike {shell : Shell} (runs : shell.session.running = true) (command : Command) :
    Alike ((runCommand command).on shell).2 (Stage.from shell command).after := by
  cases done : (runCommand command).on shell with
  | mk result after =>
    cases result with
    | error fault =>
      rw [Stage.from_fault runs done]
      exact .refl after
    | ok code =>
      rw [Stage.from_value runs done]
      exact ⟨_, _, _, rfl⟩

private theorem repliedWell_eq_true {reply : Except Fault Reply} (well : repliedWell reply = true) :
    reply = .ok (.status 0) := by
  unfold repliedWell at well
  split at well
  next code => rw [of_decide_eq_true well]
  next => cases well

theorem Alike.stays {shell other : Shell} (alike : Alike shell other) : Stays shell other := by
  obtain ⟨_, _, _, rfl⟩ := alike
  exact ⟨rfl, rfl, .refl shell.world.files⟩

theorem Ran.outcome {stage : Stage} (ran : Ran stage) : Outcome stage := by
  have alike := stage_alike ran.runs stage.command
  rw [← ran.same] at alike
  have result : stage.result = ((runCommand stage.command).on stage.before).1 := congrArg Stage.result ran.same
  by_cases cd : stage.command.program = "cd"
  · obtain ⟨well, screen, after⟩ := runCommand_builtin (cd_of_name.mpr cd) stage.before
    have goes : Goes stage.before _ ((runBuiltin .cd stage.command.arguments).on stage.before) :=
      runCd_goes stage.before stage.command.arguments
    have same : goesWell stage = repliedWell ((runBuiltin .cd stage.command.arguments).on stage.before).1 := by
      rw [goesWell, result, well, decide_eq_true cd, Bool.true_and]
    rw [after] at alike
    generalize (runBuiltin .cd stage.command.arguments).on stage.before = replied at alike goes same
    cases goes with
    | entered asks enters => exact .moved same asks enters (.trans ⟨screen, _, _, rfl⟩ alike)
    | stayed failed shown =>
      obtain ⟨shown, rfl⟩ := shown
      have unwell := Bool.eq_false_iff.mpr (mt repliedWell_eq_true failed)
      exact .refused (same.trans unwell) (.trans ⟨screen, _, _, rfl⟩ alike)
  · have stays := within_runCommand (mt cd_of_name.mp cd) stage.before
    refine .other cd ?_ (Lasting.trans stays alike.stays)
    rw [goesWell, decide_eq_false cd, Bool.false_and]

/-- The session is in the folder of the process, that folder stands, and the previous one too. -/
structure Sound (shell : Shell) : Prop where
  placed : shell.session.current = shell.world.here
  standing : Standing shell.world.files shell.world.files.here
  back : ∀ text, shell.session.previous = some text →
    ∃ place, text = Files.placeText place ∧ Standing shell.world.files place

theorem Sound.stays {shell after : Shell} (sound : Sound shell) (stays : Stays shell after) : Sound after where
  placed := by
    rw [stays.current, sound.placed, World.here, World.here, Files.hereText, Files.hereText, stays.places.here]
  standing := by
    rw [stays.places.here]
    exact sound.standing.kept stays.places.kept
  back text left := by
    rw [stays.previous] at left
    obtain ⟨place, same, standing⟩ := sound.back text left
    exact ⟨place, same, standing.kept stays.places.kept⟩

theorem Sound.moved {shell : Shell} {target : Text} {files : Files} (sound : Sound shell)
    (enters : shell.world.files.enter target = .ok files) : Sound (movedTo shell files) where
  placed := rfl
  standing := sound.standing.enter enters
  back text left := by
    obtain rfl : shell.session.current = text := Option.some.inj left
    obtain ⟨place, -, rfl⟩ := enter_found enters
    exact ⟨_, sound.placed, sound.standing.names, sound.standing.folders⟩

theorem Sound.step {stage : Stage} (sound : Sound stage.before) (outcome : Outcome stage) : Sound stage.after := by
  cases outcome with
  | moved _ _ enters alike => exact (sound.moved enters).stays alike.stays
  | refused _ alike => exact sound.stays alike.stays
  | other _ _ stays => exact sound.stays stays

theorem Linked.sound {shell last : Shell} {run : List Stage} (linked : Linked shell run last)
    (sound : Sound shell) : Sound last ∧ ∀ stage ∈ run, Sound stage.before ∧ Ran stage := by
  induction linked with
  | done alike => exact ⟨sound.stays alike.stays, List.forall_mem_nil _⟩
  | next alike ran _ ih =>
    have before := sound.stays alike.stays
    obtain ⟨ended, each⟩ := ih (before.step ran.outcome)
    exact ⟨ended, List.forall_mem_cons.mpr ⟨⟨before, ran⟩, each⟩⟩

/-- Where the latest `cd` of a run that went well was called. -/
def latest (run : List Stage) : Option Text :=
  (run.reverse.find? goesWell).map (·.before.world.here)

private theorem latest_cons (stage : Stage) (run : List Stage) :
    latest (stage :: run) =
      (latest run).or (if goesWell stage then some stage.before.world.here else none) := by
  rw [latest, latest, List.reverse_cons, List.find?_append, List.find?_singleton, Option.map_or]
  cases goesWell stage <;> rfl

theorem Linked.previous {shell last : Shell} {run : List Stage} (linked : Linked shell run last)
    (sound : Sound shell) : last.session.previous = (latest run).or shell.session.previous := by
  induction linked with
  | done alike => exact alike.stays.previous
  | @next shell stage run last alike ran _ ih =>
    have before := sound.stays alike.stays
    have came := ran.outcome
    rw [ih (before.step came), latest_cons, Option.or_assoc]
    refine congrArg (Option.or (latest run)) ?_
    cases came with
    | moved well _ _ after =>
      rw [if_pos well, ← before.placed]
      exact after.stays.previous
    | refused failed after =>
      rw [failed]
      exact after.stays.previous.trans alike.stays.previous
    | other _ failed stays =>
      rw [failed]
      exact stays.previous.trans alike.stays.previous

def started (stage : Stage) : List Launch :=
  stage.after.world.launches.take (stage.after.world.launches.length - stage.before.world.launches.length)

theorem Ran.starts {stage : Stage} (ran : Ran stage) :
    stage.after.world.launches = started stage ++ stage.before.world.launches ∧
      ∀ launch ∈ started stage, launch.folder = some stage.before.session.current := by
  have launches := runCommand_launches stage.command stage.before
  rw [← stage_launches ran.runs stage.command, ← ran.same] at launches
  have added : ∃ more, stage.after.world.launches = more ++ stage.before.world.launches ∧
      ∀ launch ∈ more, launch.folder = some stage.before.session.current := by
    split at launches
    · exact ⟨[], launches, List.forall_mem_nil _⟩
    · obtain ⟨more, all, each⟩ := launches
      exact ⟨more, all, fun launch inside => (each launch inside).2⟩
  obtain ⟨more, all, each⟩ := added
  have whole : started stage = more := by
    rw [started, all, List.length_append, Nat.add_sub_cancel_right, List.take_left]
  rw [whole]
  exact ⟨all, each⟩

theorem Linked.launches {shell last : Shell} {run : List Stage} (linked : Linked shell run last) :
    last.world.launches = run.reverse.flatMap started ++ shell.world.launches := by
  induction linked with
  | done alike =>
    obtain ⟨_, _, _, rfl⟩ := alike
    rfl
  | @next shell stage run last alike ran _ ih =>
    obtain ⟨_, _, _, same⟩ := alike
    rw [ih, ran.starts.1, List.reverse_cons, List.flatMap_append, List.flatMap_singleton,
      List.append_assoc, same]

theorem Linked.stays {shell last : Shell} {run : List Stage} (linked : Linked shell run last)
    (unmoved : ∀ stage ∈ run, goesWell stage = false) : Stays shell last := by
  induction linked with
  | done alike => exact alike.stays
  | next alike ran _ ih =>
    obtain ⟨failed, later⟩ := List.forall_mem_cons.mp unmoved
    refine Lasting.trans alike.stays (Lasting.trans ?_ (ih later))
    cases ran.outcome with
    | moved well => cases failed.symm.trans well
    | refused _ alike => exact alike.stays
    | other _ _ stays => exact stays

theorem Outcome.moves {stage : Stage} (outcome : Outcome stage) (well : goesWell stage = true) :
    ∃ target files, Asks stage.before stage.command.arguments target ∧
      stage.before.world.files.enter target = .ok files ∧ Alike (movedTo stage.before files) stage.after := by
  cases outcome with
  | moved _ asks enters alike => exact ⟨_, _, asks, enters, alike⟩
  | refused failed | other _ failed => cases failed.symm.trans well

theorem Outcome.refuses {stage : Stage} (outcome : Outcome stage) (cd : stage.command.program = "cd")
    (failed : goesWell stage = false) : Alike stage.before stage.after := by
  cases outcome with
  | moved well => cases failed.symm.trans well
  | refused _ alike => exact alike
  | other other => exact absurd cd other

/-- Going back leads to exactly the folder that was left, and remembers the one left now. -/
theorem Outcome.goesBack {stage : Stage} (outcome : Outcome stage) (sound : Sound stage.before)
    (well : goesWell stage = true) (hyphen : stage.command.arguments = [['-']]) :
    stage.before.session.previous = some stage.after.session.current ∧
      stage.after.session.previous = some stage.before.session.current := by
  obtain ⟨target, files, asks, enters, alike⟩ := outcome.moves well
  rw [hyphen] at asks
  refine ⟨?_, alike.stays.previous⟩
  cases asks with
  | path other => exact absurd rfl other
  | back left =>
    obtain ⟨place, rfl, standing⟩ := sound.back target left
    obtain rfl := standing.enter_text enters
    rw [left, alike.stays.current]
    rfl

/-- What is known of the folders after a run of commands from a new session. -/
structure Tracked (shell last : Shell) (run : List Stage) : Prop where
  current : last.session.current = last.world.here
  /-- Each program that was started belongs to a command of the run, and was started where that ran. -/
  launches : last.world.launches = run.reverse.flatMap started ++ shell.world.launches
  folders : ∀ stage ∈ run, ∀ launch ∈ started stage, launch.folder = some stage.before.world.here
  previous : last.session.previous = latest run
  followed : ∀ stage ∈ run, goesWell stage = true →
    stage.after.session.current = stage.after.world.here ∧
      stage.after.session.environment.get? "PWD" = some stage.after.session.current
  refused : ∀ stage ∈ run, stage.command.program = "cd" → goesWell stage = false →
    stage.after.session.current = stage.before.session.current ∧
      stage.after.session.previous = stage.before.session.previous ∧
      stage.after.session.environment = stage.before.session.environment ∧
      stage.after.world.files = stage.before.world.files
  /-- Going back twice, with no `cd` that went well in between. -/
  back : ∀ front first middle second rest, run = front ++ first :: (middle ++ second :: rest) →
    goesWell first = true → first.command.arguments = [['-']] →
    (∀ stage ∈ middle, goesWell stage = false) →
    goesWell second = true → second.command.arguments = [['-']] →
    second.after.session.current = first.before.session.current ∧
      second.after.session.previous = first.before.session.previous

theorem Linked.tracked {shell last : Shell} {run : List Stage} (linked : Linked shell run last)
    (sound : Sound shell) (fresh : shell.session.previous = none) : Tracked shell last run := by
  obtain ⟨ended, each⟩ := linked.sound sound
  refine ⟨ended.placed, linked.launches, ?_, ?_, ?_, ?_, ?_⟩
  · intro stage inside launch new
    obtain ⟨before, ran⟩ := each stage inside
    rw [ran.starts.2 launch new, before.placed]
  · rw [linked.previous sound, fresh, Option.or_none]
  · intro stage inside well
    obtain ⟨_, _, -, -, _, _, _, same⟩ := (each stage inside).2.outcome.moves well
    rw [same]
    exact ⟨rfl, (Table.get?_set _ _ _ _).trans (if_pos rfl)⟩
  · intro stage inside cd failed
    obtain ⟨_, _, _, same⟩ := (each stage inside).2.outcome.refuses cd failed
    rw [same]
    exact ⟨rfl, rfl, rfl, rfl⟩
  · rintro front first middle second rest rfl well hyphen unmoved well' hyphen'
    obtain ⟨soundFirst, ranFirst⟩ := each first (by simp)
    obtain ⟨soundSecond, ranSecond⟩ := each second (by simp)
    obtain ⟨came, left⟩ := ranFirst.outcome.goesBack soundFirst well hyphen
    obtain ⟨came', left'⟩ := ranSecond.outcome.goesBack soundSecond well' hyphen'
    have stays : Stays first.after second.before := by
      obtain ⟨_, -, later⟩ := linked.split
      cases later with
      | next _ _ later =>
        obtain ⟨between, before, last⟩ := later.split
        cases last with
        | next alike => exact Lasting.trans (before.stays unmoved) alike.stays
    refine ⟨?_, ?_⟩
    · rw [stays.previous, left] at came'
      exact (Option.some.inj came').symm
    · rw [left', came, stays.current]

/-- Over all lines from the start of a session on, whatever they ask for and whatever programs come to. -/
theorem folders_tracked {settings : Settings} {world after : World} {session : Session}
    (created : (Session.create settings).on world = (.ok session, after))
    (standing : Standing world.files world.files.here) (shell : Shell) (opens : shell.session = session)
    (starts : shell.world = after) (lines : List Text) :
    Tracked shell (afterLines lines shell) (course lines shell) := by
  obtain ⟨limit, entries, fields, journal, -, -, -, made, changed⟩ := SessionStart.of_create created
  subst made changed
  refine (linked_course lines shell).tracked ⟨?_, ?_, ?_⟩ ?_
  · rw [opens, starts]
    rfl
  · rw [starts]
    exact ⟨standing.names, standing.folders⟩
  · intro text left
    rw [opens] at left
    cases left
  · rw [opens]
    rfl

/-- A folder that is entered, left and entered again, and one that is not there. -/
theorem wandering_tracked :
    let lines := [("cd /.wsh" : Text), "cd -", "cd -; ls", "cd /none"]
    ∃ journal, Tracked (AbbreviationRuns.opened journal) (afterLines lines (AbbreviationRuns.opened journal))
      (course lines (AbbreviationRuns.opened journal)) := by
  intro lines
  obtain ⟨journal, created⟩ := AbbreviationRuns.create_opened
  exact ⟨journal, folders_tracked created (.root _) _ rfl rfl lines⟩

end CommandShell.Proofs.FolderTracking
