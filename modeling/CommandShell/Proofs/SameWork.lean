import CommandShell.Proofs.FolderWalks
import CommandShell.Proofs.LineAccount

/-! The same work in two shells that need not show the same, nor have the same files. Commands look
at files only to enter folders and to find names that are close to a name, and such names are only
shown. So it is enough that both shells have the same folders. -/

namespace CommandShell.Proofs.SameWork
open ActSteps FolderWalks LineRuns Shell

def Keeping (shell : Shell) : Prop := ∃ notices, shell.screen = .record notices

theorem Keeping.display {shell : Shell} (keeping : Keeping shell) (notice : Notice) :
    ∃ notices, (display notice).on shell = (.ok ⟨⟩, { shell with screen := .record notices }) := by
  obtain ⟨notices, screen⟩ := keeping
  refine ⟨notice :: notices, ?_⟩
  simp only [Shell.display, on_bind, on_get, screen]
  rfl

def keepingFrame : Frame where
  holds := Keeping
  inside _ := True
  world _ := trivial
  withWorld held _ := held
  withScreen held shown := by
    obtain ⟨notices, screen⟩ := held
    rw [screen] at shown
    cases shown
    exact ⟨_, rfl⟩
  withJournal _ _ := trivial
  withClipboard _ _ := trivial
  withFiles _ _ := trivial
  withInput _ _ := trivial

private theorem keepingFrame_serves (command : Command) : keepingFrame.likeness.Serves command :=
  Frame.serves (fun _ _ held => held) (fun _ held => held) (Frame.starts fun _ _ _ _ _ => trivial) command

theorem execute_keeping (line : Text) {shell : Shell} (keeping : Keeping shell) :
    Keeping ((execute line).on shell).2 :=
  execute_keeps keepingFrame_serves (fun _ => Frame.allows fun held => held) line keeping

private theorem execute_ok (line : Text) {shell : Shell} (keeping : Keeping shell) :
    ∃ code, ((execute line).on shell).1 = .ok code := by
  cases read : Job.ofLine line with
  | ok job =>
    refine ⟨_, (LineAccount.execute_settled read ?_).1⟩
    intro fault _
    obtain ⟨notices, screen⟩ :=
      carryOut_keeps keepingFrame_serves (fun _ => Frame.allows fun held => held) (commandsOf line) keeping
    rw [screen]
    exact ⟨_, rfl⟩
  | error unclosed =>
    unfold execute
    by_cases blank : (Text.trim line).isEmpty = true
    · rw [if_pos blank]
      exact ⟨_, rfl⟩
    · obtain ⟨notices, shown⟩ := keeping.display (.error line unclosed.message)
      rw [if_neg blank, read]
      dsimp only
      rw [on_bind, shown]
      exact ⟨_, rfl⟩

/-- Two worlds with the folders of known files, which commands can tell apart by other files only. -/
structure Worlds (known : Files) (world other : World) : Prop where
  first : SameFolders known world.files
  second : SameFolders known other.files
  here : world.files.here = other.files.here
  inherited : world.environment = other.environment
  clipboard : world.clipboard = other.clipboard
  launches : world.launches = other.launches
  outcome : world.outcome = other.outcome

def Alike (known : Files) (shell other : Shell) : Prop :=
  Core.ofSession shell.session = Core.ofSession other.session ∧ shell.settings = other.settings ∧
    Worlds known shell.world other.world ∧
    (shell.session.abbreviations.table = [] ∧ Keeping shell) ∧
    (other.session.abbreviations.table = [] ∧ Keeping other)

theorem alike_self {shell : Shell} (empty : shell.session.abbreviations.table = [])
    (keeping : Keeping shell) : Alike shell.world.files shell shell :=
  ⟨rfl, rfl, ⟨.refl _, .refl _, rfl, rfl, rfl, rfl, rfl⟩, ⟨empty, keeping⟩, empty, keeping⟩

/-- A folder that cannot be entered may be refused in two ways. -/
def Refused (fault fault' : Fault) : Prop := fault = fault' ∨ fault.isFile = true ∧ fault'.isFile = true

section Work

variable {known : Files}

private theorem related_enter (target : Text) :
    Related Refused (Worlds known) Eq (World.enter target) (World.enter target) := by
  intro world other alike
  have folders : SameFolders world.files other.files := alike.first.symm.trans alike.second
  simp only [Matches, World.enter, World.editAt, World.atPath]
  by_cases null : target.contains '\x00' = true
  · simp only [if_pos null, on_bind, on_throw]
    exact ⟨.fault (.inl rfl), alike⟩
  · simp only [if_neg null, on_bind, on_get]
    obtain ⟨place, first, second⟩ | ⟨problem, problem', first, second⟩ := folders.enter alike.here target
    · rw [first, second]
      exact ⟨.value rfl, alike.first, alike.second, rfl, alike.inherited, alike.clipboard,
        alike.launches, alike.outcome⟩
    · rw [first, second]
      exact ⟨.fault (.inr ⟨rfl, rfl⟩), alike⟩

/-- Looking for programs fails for the names of folders only. -/
theorem programs_agree (files other : Files) (front : Text) (folders : List Text) :
    Agree Eq (fun _ _ => True) (files.programs front folders) (other.programs front folders) := by
  have inFolder (folder : Text) :
      Agree Eq (fun _ _ => True) (files.programsIn front folder) (other.programsIn front folder) := by
    unfold Files.programsIn Files.listed
    by_cases null : folder.contains '\x00' = true
    · rw [if_pos null, if_pos null]
      exact .fault rfl
    · rw [if_neg null, if_neg null]
      cases files.list folder with
      | ok | error =>
        cases other.list folder with
        | ok | error => exact .value trivial
  have inFolders : Agree Eq (fun _ _ => True) (folders.mapM (files.programsIn front))
      (folders.mapM (other.programsIn front)) := by
    induction folders with
    | nil => exact .value trivial
    | cons folder rest ih =>
      have first := inFolder folder
      rw [List.mapM_cons, List.mapM_cons]
      generalize files.programsIn front folder = found at first
      generalize other.programsIn front folder = found' at first
      generalize rest.mapM (files.programsIn front) = more at ih
      generalize rest.mapM (other.programsIn front) = more' at ih
      cases first with
      | fault same => exact .fault same
      | value =>
        cases ih with
        | fault same => exact .fault same
        | value => exact .value trivial
  unfold Files.programs
  generalize folders.mapM (files.programsIn front) = found at inFolders
  generalize folders.mapM (other.programsIn front) = found' at inFolders
  cases inFolders with
  | fault same => exact .fault same
  | value => exact .value trivial

private theorem alternatives_agree (shell other : Shell)
    (environment : shell.session.environment = other.session.environment) (name : Text) :
    Agree Eq (fun _ _ => True) (shell.alternatives name) (other.alternatives name) := by
  have found := programs_agree shell.world.files other.world.files [] shell.session.environment.searchPath
  unfold Shell.alternatives
  rw [← environment]
  generalize shell.world.files.programs [] shell.session.environment.searchPath = first at found
  generalize other.world.files.programs [] shell.session.environment.searchPath = second at found
  split
  · exact .value trivial
  · cases found with
    | fault same => exact .fault same
    | value => exact .value trivial

def likeness (known : Files) : Likeness where
  like := Alike known
  worlds := Worlds known
  shows _ _ := True
  refusals := Refused
  core alike := alike.1
  settings alike := alike.2.1
  world alike := alike.2.2.1
  withWorld alike same := ⟨alike.1, alike.2.1, same, alike.2.2.2⟩
  inherited alike := alike.inherited
  here alike := congrArg Files.placeText alike.here
  clipboard alike := alike.clipboard
  withClipboard _ alike := { alike with clipboard := rfl }
  withJournal _ _ alike := { alike with }
  enters := related_enter
  shows_refl _ := trivial
  shows_history _ := trivial
  shows_refusal _ _ _ := trivial
  isFile_refusal refused := by
    obtain rfl | ⟨first, second⟩ := refused
    · rfl
    · rw [first, second]
  same_refusal refused other := by
    obtain rfl | ⟨first, -⟩ := refused
    · rfl
    · rw [first] at other
      cases other
  alternatives alike name :=
    (alternatives_agree _ _ (congrArg Core.environment alike.1) name).imp fun _ _ _ _ => trivial
  displays := by
    intro notice notice' _ before other alike
    obtain ⟨core, settings, worlds, ⟨table, keeping⟩, ⟨table', keeping'⟩⟩ := alike
    obtain ⟨notices, shown⟩ := keeping.display notice
    obtain ⟨notices', shown'⟩ := keeping'.display notice'
    rw [Matches, shown, shown']
    exact ⟨.value rfl, core, settings, worlds, ⟨table, _, rfl⟩, ⟨table', _, rfl⟩⟩

/-- A command that neither adds an abbreviation nor takes standard input. -/
structure Plain (command : Command) : Prop where
  abbreviation (called : Builtin.ofName? command.program = some .abbr) (word part : Text)
    (parts : List Text) : command.arguments ≠ ['-', 'a'] :: word :: part :: parts
  input (called : Builtin.ofName? command.program = some .pbcopy) : command.arguments ≠ []

theorem related_runAbbr {arguments : List Text}
    (adds : ∀ word part parts, arguments ≠ ['-', 'a'] :: word :: part :: parts) :
    Related Eq (Alike known) Eq (runAbbr arguments) (runAbbr arguments) := by
  have answer (notice notice' : Notice) (reply : Reply) : Related Eq (Alike known) Eq
      (do display notice; return reply) (do display notice'; return reply) :=
    (likeness known).related_answer trivial reply
  have nothing {abbreviations : Abbreviations} (empty : abbreviations.table = []) (word : Text) :
      (abbreviations.remove word).1.table = [] ∧ (abbreviations.remove word).2 = false := by
    rw [Abbreviations.remove, Abbreviations.expansion?, empty]
    exact ⟨rfl, rfl⟩
  unfold runAbbr
  refine .bind .state fun before other alike => ?_
  split
  · exact answer _ _ _
  next word part parts => exact absurd rfl (adds word part parts)
  next word =>
    obtain ⟨empty, none⟩ := nothing alike.2.2.2.1.1 word
    obtain ⟨empty', none'⟩ := nothing alike.2.2.2.2.1 word
    dsimp only
    rw [none, none']
    refine .next (.change fun before other alike => ?_) fun _ => answer _ _ _
    obtain ⟨core, settings, worlds, ⟨_, keeping⟩, ⟨_, keeping'⟩⟩ := alike
    exact ⟨core, settings, worlds, ⟨empty, keeping⟩, ⟨empty', keeping'⟩⟩
  · exact .value rfl

theorem allows (change : Core → Core) : (likeness known).Allows change := by
  intro before other alike
  obtain ⟨core, settings, worlds, ⟨table, keeping⟩, ⟨table', keeping'⟩⟩ := alike
  exact ⟨congrArg change core, settings, worlds, ⟨table, keeping⟩, ⟨table', keeping'⟩⟩

theorem serves {command : Command} (plain : Plain command) : (likeness known).Serves command where
  allows := allows
  starts before other words alike world world' same := by
    simp only [Matches, World.launch, on_bind, on_modify, on_get, on_pure]
    rw [same.launches, same.outcome]
    exact ⟨.value rfl, { same with launches := rfl, outcome := rfl }⟩
  abbr called := related_runAbbr (plain.abbreviation called)
  input called all := absurd all (plain.input called)

/-- A line whose commands are plain does the same work in both shells, and does not fail. -/
theorem alike_execute (line : Text) {shell other : Shell} (alike : Alike known shell other)
    (plain : ∀ stage ∈ stages (commandsOf line) other, Plain stage.command) :
    ∃ code, ((execute line).on shell).1 = .ok code ∧ ((execute line).on other).1 = .ok code ∧
      Alike known ((execute line).on shell).2 ((execute line).on other).2 := by
  have codes (code : Int) : (likeness known).Allows fun core => { core with lastCode := code } :=
    allows _
  obtain ⟨agree, still⟩ := execute_alike codes line alike fun stage ran => serves (plain stage ran)
  obtain ⟨code, given⟩ := execute_ok line alike.2.2.2.2.2
  generalize ((execute line).on shell).1 = first at agree
  rw [given] at agree ⊢
  cases agree with
  | value same => exact ⟨code, congrArg Except.ok same, rfl, still⟩

end Work

end CommandShell.Proofs.SameWork
