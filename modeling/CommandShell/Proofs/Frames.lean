import CommandShell.Proofs.Likeness

/-! What carrying out commands leaves as it is. A property that showing something and writing into
the journal never take away is a likeness of a shell with itself; a command keeps it as soon as its
other changes do. -/

namespace CommandShell.Proofs
open ActSteps Shell

/-- A property of shells that neither what is shown nor what is written into the journal, the files
and the clipboard takes away. -/
structure Frame where
  holds : Shell → Prop
  inside : World → Prop
  world {shell} (held : holds shell) : inside shell.world
  withWorld {shell world} (held : holds shell) (held' : inside world) : holds { shell with world }
  withScreen {shell : Shell} {notice : Notice} {screen : Screen} (held : holds shell)
    (shown : shell.screen.present shell.settings notice = .ok screen) : holds { shell with screen }
  withJournal {world} (journal : List Message) (held : inside world) : inside { world with journal }
  withClipboard {world} (clipboard : Clipboard) (held : inside world) :
    inside { world with clipboard }
  withFiles {world} (files : Files) (held : inside world) : inside { world with files }
  withInput {world} (input : Text) (held : inside world) : inside { world with input }

namespace Frame

variable (frame : Frame)

def worlds (world other : World) : Prop :=
  (∃ journal, other = { world with journal }) ∧ frame.inside world

def like (before other : Shell) : Prop :=
  (∃ journal, other = { before with world := { before.world with journal } }) ∧ frame.holds before

variable {frame}

private theorem sameFiles : SameFiles frame.worlds where
  files alike := by
    obtain ⟨⟨journal, rfl⟩, -⟩ := alike
    rfl
  withFiles files alike := by
    obtain ⟨⟨journal, rfl⟩, held⟩ := alike
    exact ⟨⟨journal, rfl⟩, frame.withFiles files held⟩

theorem related_display (notice : Notice) :
    Related Eq frame.like Eq (display notice) (display notice) := by
  rintro before _ ⟨⟨journal, rfl⟩, held⟩
  simp only [Matches, display, on_bind, on_get, on_ofExcept]
  cases shown : before.screen.present before.settings notice with
  | error fault => exact ⟨.fault rfl, ⟨journal, rfl⟩, held⟩
  | ok screen => exact ⟨.value rfl, ⟨journal, rfl⟩, frame.withScreen held shown⟩

private theorem alternatives_eq {before other : Shell} (alike : frame.like before other) (name : Text) :
    before.alternatives name = other.alternatives name := by
  obtain ⟨⟨journal, rfl⟩, -⟩ := alike
  rfl

variable (frame)

def likeness : Likeness where
  like := frame.like
  worlds := frame.worlds
  shows := Eq
  refusals := Eq
  core := by
    rintro before _ ⟨⟨journal, rfl⟩, -⟩
    rfl
  settings := by
    rintro before _ ⟨⟨journal, rfl⟩, -⟩
    rfl
  world := by
    rintro before _ ⟨⟨journal, rfl⟩, held⟩
    exact ⟨⟨journal, rfl⟩, frame.world held⟩
  withWorld := by
    rintro before _ world _ ⟨⟨journal, rfl⟩, held⟩ ⟨⟨journal', rfl⟩, held'⟩
    exact ⟨⟨journal', rfl⟩, frame.withWorld held held'⟩
  inherited := by
    rintro world _ ⟨⟨journal, rfl⟩, -⟩
    rfl
  here := by
    rintro world _ ⟨⟨journal, rfl⟩, -⟩
    rfl
  clipboard := by
    rintro world _ ⟨⟨journal, rfl⟩, -⟩
    rfl
  withClipboard := by
    rintro world _ clipboard ⟨⟨journal, rfl⟩, held⟩
    exact ⟨⟨journal, rfl⟩, frame.withClipboard clipboard held⟩
  withJournal := by
    rintro world _ journal journal' ⟨⟨_, rfl⟩, held⟩
    exact ⟨⟨journal', rfl⟩, frame.withJournal journal held⟩
  enters target := sameFiles.related_editAt target _
  shows_refl _ := rfl
  shows_history := by
    rintro before _ ⟨⟨journal, rfl⟩, -⟩
    rfl
  shows_refusal := by
    rintro fault _ rfl command lead
    rfl
  isFile_refusal := by
    rintro fault _ rfl
    rfl
  same_refusal := by
    rintro fault _ rfl _
    rfl
  alternatives alike name := by
    rw [alternatives_eq alike]
    generalize Shell.alternatives _ name = found
    cases found with
    | ok names => exact .value fun _ => rfl
    | error fault => exact .fault rfl
  displays := by
    rintro notice _ rfl
    exact related_display notice

variable {frame}

theorem related_takeInput :
    Related Eq frame.likeness.worlds Eq World.takeInput World.takeInput := by
  rintro world _ ⟨⟨journal, rfl⟩, held⟩
  exact ⟨.value rfl, ⟨journal, rfl⟩, frame.withInput [] held⟩

theorem keeps (withAbbreviations : ∀ {shell} (table : Abbreviations), frame.holds shell →
      frame.holds { shell with session := { shell.session with abbreviations := table } }) :
    frame.likeness.Keeps where
  toSameFiles := sameFiles
  abbreviations := by
    rintro before _ ⟨⟨journal, rfl⟩, -⟩
    rfl
  withAbbreviations := by
    rintro before _ table ⟨⟨journal, rfl⟩, held⟩
    exact ⟨⟨journal, rfl⟩, withAbbreviations table held⟩

theorem allows {change : Core → Core} (withCore : ∀ {shell}, frame.holds shell →
      frame.holds
        { shell with session := (change (.ofSession shell.session)).into shell.session }) :
    frame.likeness.Allows change := by
  rintro before _ ⟨⟨journal, rfl⟩, held⟩
  exact ⟨⟨journal, rfl⟩, withCore held⟩

theorem starts (withStart : ∀ shell world words, frame.holds shell → frame.inside world →
      frame.inside { world with
        launches := ⟨words, some shell.session.current, shell.session.environment⟩ ::
          world.launches }) :
    frame.likeness.Starts := by
  rintro before _ words ⟨⟨_, rfl⟩, held⟩ start world _ ⟨⟨journal, rfl⟩, held'⟩
  exact ⟨.value rfl, ⟨journal, rfl⟩, withStart before world words held held'⟩

theorem serves (withCore : ∀ (change : Core → Core) {shell}, frame.holds shell → frame.holds
        { shell with session := (change (.ofSession shell.session)).into shell.session })
    (withAbbreviations : ∀ {shell} (table : Abbreviations), frame.holds shell →
      frame.holds { shell with session := { shell.session with abbreviations := table } })
    (starts : frame.likeness.Starts) (command : Command) : frame.likeness.Serves command where
  allows change := allows fun held => withCore change held
  starts := starts
  abbr _ := Likeness.related_runAbbr (keeps fun table held => withAbbreviations table held) _
  input _ _ := related_takeInput

theorem kept {α : Type} {act : Act Shell α}
    (related : Related Eq frame.likeness.like Eq act act) {shell : Shell}
    (held : frame.holds shell) : frame.holds (act.on shell).2 :=
  (related shell shell ⟨⟨shell.world.journal, rfl⟩, held⟩).2.2

end Frame

def plainFrame : Frame where
  holds _ := True
  inside _ := True
  world _ := trivial
  withWorld _ _ := trivial
  withScreen _ _ := trivial
  withJournal _ _ := trivial
  withClipboard _ _ := trivial
  withFiles _ _ := trivial
  withInput _ _ := trivial

theorem plainFrame_serves (command : Command) : plainFrame.likeness.Serves command :=
  Frame.serves (fun _ _ _ => trivial) (fun _ _ => trivial) (Frame.starts fun _ _ _ _ _ => trivial) command

/-- A shell in an empty world, whose screen keeps the notices. -/
def bareShell : Shell where
  world := {}
  settings := { home := ⟨"/", []⟩ }
  session := { environment := [], current := "/" }
  screen := .record []
  flags := { folder := ⟨"/", []⟩ }

end CommandShell.Proofs
