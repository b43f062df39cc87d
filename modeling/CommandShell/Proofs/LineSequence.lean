import CommandShell.Proofs.JoinedLines
import CommandShell.Proofs.LineAccount

/-! Two lines that are done one after the other, and the one line that a semicolon makes of them. What
is shown at the end of a line names the whole line, but whether it can be shown does not depend on it. -/

namespace CommandShell.Proofs.LineSequence
open ActSteps Shell LineRuns LineAccount JoinedLines

def FailAlike (first : Except Fault α) (second : Except Fault β) : Prop :=
  Agree Eq (fun _ _ => True) first second

theorem FailAlike.bind {first : Except Fault α} {next more : α → Except Fault β}
    (rest : ∀ value, first = .ok value → FailAlike (next value) (more value)) :
    FailAlike (first >>= next) (first >>= more) := by
  cases first with
  | ok value => exact rest value rfl
  | error fault => exact .fault rfl

theorem FailAlike.map {first second : Except Fault α} (alike : FailAlike first second) (f g : α → β) :
    FailAlike (f <$> first) (g <$> second) := by
  cases alike with
  | value => exact .value trivial
  | fault same => exact .fault same

private theorem cells_blank (t : Text) : 0 < Text.cells (' ' :: t) := by
  cases t with
  | nil => decide
  | cons d rest =>
    show 0 < Text.cellsOf ' ' + Text.cellsAfter (some ' ') (d :: rest)
    have blank : Text.cellsOf ' ' = 1 := rfl
    omega

private theorem cells_spaced (box : Box) (caption : StyledText) : 0 < (box.spaced caption).cells :=
  cells_blank _

/-- A title gives a panel its width, whatever the content: what room there is for the title is then
the same. -/
theorem width_titled (box : Box) {caption : StyledText} (blank : 0 < caption.cells)
    (content : Drawing) :
    Box.edgeBesideCaption < box.width (some caption) content ↔
      Box.edgeBesideCaption < box.room - 2 := by
  simp only [Box.width, Box.edgeBesideCaption]
  omega

theorem FailAlike.branch {condition : Prop} [Decidable condition] {first second : Except Fault α}
    {more other : Except Fault β}
    (holds : condition → FailAlike first more) (fails : ¬ condition → FailAlike second other) :
    FailAlike (if condition then first else second) (if condition then more else other) := by
  split
  next held => exact holds held
  next failed => exact fails failed

private theorem title_shown {style : PanelStyle} {title : Option StyledText}
    (read : style.title Message.panelTitle = .ok title) : ∃ caption, title = some caption := by
  unfold PanelStyle.title at read
  have filled : (StyledText.ofText Message.panelTitle).text.isEmpty = false := rfl
  have filled' : Message.panelTitle.isEmpty = false := rfl
  simp only [filled, filled', Bool.false_eq_true, if_false] at read
  split at read
  · cases named : Markup.read Message.panelTitle with
    | error fault =>
      rw [named] at read
      cases read
    | ok caption =>
      rw [named] at read
      exact ⟨caption, (Except.ok.inj read).symm⟩
  · exact ⟨_, (Except.ok.inj read).symm⟩

private theorem rows_failAlike (style : PanelStyle) (room : Nat) {content other : Drawing}
    (sound : content.flaw = none) (sound' : other.flaw = none) :
    FailAlike (style.rows room Message.panelTitle (.ok content))
      (style.rows room Message.panelTitle (.ok other)) := by
  unfold PanelStyle.rows
  refine .bind fun sides _ => ?_
  obtain ⟨top, right, bottom, left⟩ := sides
  refine .bind fun border _ => .bind fun most _ => .bind fun title named => ?_
  obtain ⟨caption, rfl⟩ := title_shown named
  by_cases padded : [top, right, bottom, left].any Json.isTrue = true
  all_goals
    simp only [padded, if_true, Bool.false_eq_true, if_false]
    refine .bind fun left _ => .bind fun right _ => ?_
    refine @FailAlike.bind _ _ style.innerHeight _ _ fun height _ => ?_
    -- Nothing from here on fails because of the content: what is checked is the style and the title.
    simp only [sound, sound']
    refine .bind fun top _ => .bind fun bottom _ => ?_
    simp only [Option.map_some, width_titled _ (cells_spaced _ _), Option.isSome_some, Bool.true_and,
      decide_eq_true_eq]
    repeat' first
      | exact .value trivial
      | exact .fault rfl
      | refine .branch (fun _ => ?_) fun _ => ?_
      | refine .bind fun _ _ => ?_
      | split

private theorem closing_failAlike (screen : Screen) (settings : Settings) (first second : Text)
    (fault : Fault) :
    FailAlike (screen.present settings (closing first fault))
      (screen.present settings (closing second fault)) := by
  unfold closing
  split
  · cases screen with
    | record notices => exact .value trivial
    | drawn canvas =>
      refine .map (.map ?_ _ _) _ _
      exact .bind fun style _ => rows_failAlike style _ rfl rfl
  · cases screen.present settings .interrupt with
    | ok screen => exact .value trivial
    | error fault => exact .fault rfl

/-- However a line ends, what is done about it differs from another line in what is shown only. -/
theorem settle_alike (first second : Text) (result : Except Fault Unit) (shell : Shell) :
    let settled (line : Text) :=
      (do settle line result; return (← get).session.lastCode : Act Shell Int).on shell
    (settled first).1 = (settled second).1 ∧
      ∃ screen, (settled first).2 = { (settled second).2 with screen } := by
  cases result with
  | ok => exact ⟨rfl, shell.screen, rfl⟩
  | error fault =>
    have alike := closing_failAlike shell.screen shell.settings first second fault
    simp only [settle, display, on_bind, on_get, on_ofExcept]
    generalize shell.screen.present shell.settings (closing first fault) = shown at alike ⊢
    generalize shell.screen.present shell.settings (closing second fault) = shown' at alike ⊢
    cases alike with
    | value => exact ⟨rfl, _, rfl⟩
    | fault same =>
      subst same
      exact ⟨rfl, shell.screen, rfl⟩

def Journalled (first second : Shell) : Prop :=
  ∃ journal, first = { second with world := { second.world with journal } }

/-- What the journal holds is nothing to a line, and it is the only difference between a line and the
commands that it asks for. -/
theorem execute_performs (line : Text) {before other : Shell} (same : Journalled before other) :
    ((execute line).on before).1 = ((perform line).on other).1 ∧
      Journalled ((execute line).on before).2 ((perform line).on other).2 := by
  have alike : plainFrame.likeness.like before other := by
    obtain ⟨journal, rfl⟩ := same
    exact ⟨⟨other.world.journal, rfl⟩, trivial⟩
  obtain ⟨agree, ⟨journal, after⟩, -⟩ := execute_matches (fun _ => Frame.allows fun _ => trivial) line
    alike fun stage _ => plainFrame_serves stage.command
  refine ⟨?_, ((execute line).on before).2.world.journal, ?_⟩
  · generalize ((execute line).on before).1 = result at agree ⊢
    generalize ((perform line).on other).1 = result' at agree ⊢
    cases agree with
    | value same | fault same => rw [same]
  · rw [after]

private theorem carryOut_finishes {pipelines : List Pipeline} {shell : Shell}
    (runs : ((runPipelines pipelines).on shell).1 = .ok ⟨⟩) :
    ((carryOut (pipelines.map (·.head))).on shell).1 = .ok ⟨⟩ := by
  have alike : plainFrame.likeness.like shell shell := ⟨⟨shell.world.journal, rfl⟩, trivial⟩
  obtain ⟨agree, -⟩ := runPipelines_matches (fun _ => Frame.allows fun _ => trivial) pipelines alike
    fun stage _ => plainFrame_serves stage.command
  rw [runs] at agree
  generalize ((carryOut (pipelines.map (·.head))).on shell).1 = result at agree ⊢
  cases agree with
  | value => rfl

private theorem perform_read {line : Text} {job : Job} (read : Job.ofLine line = .ok job)
    (skips : SkipsNothing line) (shell : Shell) :
    (perform line).on shell =
      (do settle line ((carryOut (heads job)).on shell).1
          return (← get).session.lastCode : Act Shell Int).on
        ((carryOut (heads job)).on shell).2 := by
  rw [perform_on read, commandsOf_read read skips]

private theorem perform_joined {first second : Text} {job more : Job} (read : Job.ofLine first = .ok job)
    (reads : Job.ofLine second = .ok more) (ends : ¬ Dangles first) (skips : SkipsNothing first)
    (skips' : SkipsNothing second) {shell : Shell}
    (runs : ((runPipelines job.pipelines).on shell).1 = .ok ⟨⟩) :
    ∃ code middle, (perform first).on shell = (.ok code, middle) ∧
      ((perform (first ++ ';' :: second)).on shell).1 = ((perform second).on middle).1 ∧
      ∃ screen, ((perform (first ++ ';' :: second)).on shell).2 =
        { ((perform second).on middle).2 with screen } := by
  obtain ⟨middle, carried⟩ : ∃ middle, (carryOut (heads job)).on shell = (.ok ⟨⟩, middle) :=
    ⟨_, Prod.ext (carryOut_finishes runs) rfl⟩
  have together : (carryOut (heads job ++ heads more)).on shell = (carryOut (heads more)).on middle := by
    rw [carryOut_append, on_bind, carried]
  have alone : (perform first).on shell = (.ok middle.session.lastCode, middle) := by
    rw [perform_read read skips, carried]
    rfl
  refine ⟨middle.session.lastCode, middle, alone, ?_⟩
  rw [perform_on (ofLine_joined read reads ends), commandsOf_joined read reads ends, together,
    perform_read reads skips']
  exact settle_alike _ _ _ _

/-- A semicolon between two lines is the end of the first one: together they do what they do one after
the other. Only what is shown and the journal know the line as a whole. -/
theorem execute_joined {first second : Text} {job more : Job} (read : Job.ofLine first = .ok job)
    (reads : Job.ofLine second = .ok more) (ends : ¬ Dangles first) (skips : SkipsNothing first)
    (skips' : SkipsNothing second) {shell : Shell}
    (runs : ((runPipelines job.pipelines).on shell).1 = .ok ⟨⟩) :
    let together := (execute (first ++ ';' :: second)).on shell
    let apart := (do discard (execute first); execute second : Act Shell Int).on shell
    together.1 = apart.1 ∧ ∃ screen journal,
      together.2 = { apart.2 with screen, world := { apart.2.world with journal } } := by
  intro together apart
  obtain ⟨code, middle, performed, value, screen, final⟩ :=
    perform_joined read reads ends skips skips' runs
  have start : Journalled shell shell := ⟨shell.world.journal, rfl⟩
  obtain ⟨wholeValue, journal, whole⟩ := execute_performs (first ++ ';' :: second) start
  obtain ⟨firstValue, between⟩ := execute_performs first start
  rw [performed] at firstValue between
  obtain ⟨secondValue, _, after⟩ := execute_performs second between
  have ran : apart = (execute second).on ((execute first).on shell).2 := by
    simp only [apart, on_bind, on_discard, firstValue, Except.map]
  rw [ran, after]
  refine ⟨wholeValue.trans (value.trans secondValue.symm), screen, journal, ?_⟩
  exact whole.trans (by rw [final])

/-- A first line that leaves the session and has a pipe to nothing at its end. -/
theorem leaving_line_joined :
    ∃ job more, Job.ofLine "exit 3 |" = .ok job ∧ Job.ofLine "ls" = .ok more ∧
      ((runPipelines job.pipelines).on bareShell).1 = .ok ⟨⟩ ∧
      let together := (execute ("exit 3 |" ++ ';' :: "ls")).on bareShell
      let apart := (do discard (execute "exit 3 |"); execute "ls" : Act Shell Int).on bareShell
      together.1 = apart.1 ∧ ∃ screen journal,
        together.2 = { apart.2 with screen, world := { apart.2.world with journal } } := by
  have read : Job.ofLine "exit 3 |" =
      .ok ⟨[⟨⟨"exit", ["3"], []⟩, [], false⟩], [⟨.missingCommand, 7⟩]⟩ := ofLine_of_some (by decide +kernel)
  have reads : Job.ofLine "ls" = .ok ⟨[⟨⟨"ls", [], []⟩, [], false⟩], []⟩ :=
    ofLine_of_some (by decide +kernel)
  have ends : ¬ Dangles "exit 3 |" := by
    unfold Dangles
    decide
  have skips : SkipsNothing "exit 3 |" := fun skipped => by cases skipped
  have skips' : SkipsNothing "ls" := fun skipped => by cases skipped
  have runs : ((runPipelines [⟨⟨"exit", ["3"], []⟩, [], false⟩]).on bareShell).1 = .ok ⟨⟩ := rfl
  exact ⟨_, _, read, reads, runs, execute_joined read reads ends skips skips' runs⟩

/-- A blank that separates no words names a program that runs before a semicolon, and not alone. -/
theorem blank_name_runs_joined :
    ∃ job more, Job.ofLine ['\u00a0'] = .ok job ∧ Job.ofLine [] = .ok more ∧ ¬ Dangles ['\u00a0'] ∧
      ((runPipelines job.pipelines).on bareShell).1 = .ok ⟨⟩ ∧
      ((execute ['\u00a0', ';']).on bareShell).2.world.launches.length = 1 ∧
      ((do discard (execute ['\u00a0']); execute [] : Act Shell Int).on bareShell).2.world.launches =
        [] := by
  have together : Job.ofLine ['\u00a0', ';'] = .ok ⟨[⟨⟨['\u00a0'], [], []⟩, [], false⟩], []⟩ :=
    ofLine_of_some (by decide +kernel)
  refine ⟨⟨[⟨⟨['\u00a0'], [], []⟩, [], false⟩], []⟩, ⟨[], []⟩, ofLine_of_some (by decide +kernel),
    ofLine_of_some (by decide +kernel), ?_, rfl, ?_, rfl⟩
  · unfold Dangles
    decide
  · rw [execute, together]
    rfl

end CommandShell.Proofs.LineSequence
