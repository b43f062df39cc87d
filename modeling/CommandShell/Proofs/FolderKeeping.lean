import CommandShell.Proofs.BuiltinParts
import CommandShell.Proofs.FileWrites

/-! All work of the shell but `cd` leaves the folder of the process and the folders of the session as they
are, and where there was a folder there still is one. -/

namespace CommandShell.Proofs.FolderKeeping
open ActSteps BuiltinParts FileWrites FolderWalks Shell

section Writes

variable {files other made : Files} {place : Place} {path : Text}

/-- The process is in the same folder, and folders and links are where they were. -/
structure SamePlaces (files other : Files) : Prop where
  here : other.here = files.here
  kept : Kept files other

theorem SamePlaces.refl (files : Files) : SamePlaces files files := ⟨rfl, .refl files⟩

theorem SamePlaces.trans {more : Files} (first : SamePlaces files other) (second : SamePlaces other more) :
    SamePlaces files more := ⟨second.here.trans first.here, first.kept.trans second.kept⟩

instance : Lasting SamePlaces where
  refl := .refl
  trans := .trans

private theorem same_change {edit : Bytes → Bytes} (written : files.change path edit = .ok made) :
    SamePlaces files made := by
  obtain ⟨same, here⟩ := SameFolders.change written
  exact ⟨here, kept_of_sameFolders same⟩

private theorem same_makeFolder (makes : files.makeFolder path = .ok made) : SamePlaces files made := by
  obtain ⟨folder, name, -, absent, rfl⟩ := makeFolder_put makes
  exact ⟨put_here _ _ _, kept_put absent _⟩

end Writes

section Worlds

def InPlace (world after : World) : Prop := SamePlaces world.files after.files

instance : Lasting InPlace where
  refl world := .refl world.files
  trans first second := SamePlaces.trans first second

theorem within_note (level : Level) (source text : Text) : Within InPlace (World.note level source text) :=
  .change fun world => .refl world.files

private theorem within_ensureFolders (path : Path) : Within InPlace (World.ensureFolders path) := by
  intro world
  have same := ensureFolders_lasting same_makeFolder world.files path.root path.parts.reverse
  unfold World.ensureFolders
  split
  · exact .refl world.files
  · simp only [on_bind, on_get, on_modify]
    generalize world.files.ensureFolders path.root path.parts.reverse = made at same ⊢
    obtain ⟨files, result⟩ := made
    cases result with
    | ok => exact same
    | error refused => exact same

private theorem within_writeText (path text : Text) : Within InPlace (World.writeText path text) := by
  intro world
  unfold World.writeText World.editAt World.atPath
  split
  · exact .refl world.files
  · simp only [on_bind, on_get]
    cases written : world.files.write path (Utf8.encode text) with
    | ok files => exact same_change written
    | error problem => exact .refl world.files

private theorem within_save (abbreviations : Abbreviations) : Within InPlace abbreviations.save := by
  unfold Abbreviations.save
  split
  · exact .value _
  · refine .bind (.attempt (.bind (within_ensureFolders _) fun _ => within_writeText _ _)) fun written => ?_
    cases written with
    | ok => exact .value _
    | error fault =>
      dsimp only
      split
      · exact within_note _ _ _
      · exact .fault _

private theorem within_launch (start : Launch) : Within InPlace (World.launch start) :=
  .bind (.change fun world => .refl world.files) fun _ => .read fun _ => .value _

private theorem within_start (words : List Json) (environment : Table Text) (folder : Option Text) :
    Within InPlace (Program.start words environment folder) := by
  unfold Program.start
  split
  · exact .value _
  · refine .bind (within_launch _) fun outcome => ?_
    split
    · exact .value _
    · exact .value _
    · exact .bind (within_note _ _ _) fun _ => .value _
    · exact .bind (within_note _ _ _) fun _ => .value _
    · exact .bind (within_note _ _ _) fun _ => .value _
    · exact .fault _

private theorem within_startSuffixed (settings : Settings) (environment : Table Text) (folder : Option Text)
    (name : Text) (arguments : List Text) (suffixes : List Json) :
    Within InPlace (Program.startSuffixed settings environment folder name arguments suffixes) := by
  induction suffixes with
  | nil => exact .value _
  | cons suffix rest ih =>
    refine .bind (.result _) fun words => .bind (within_start words environment folder) fun code => ?_
    split
    · exact ih
    · exact .value _

private theorem within_run (settings : Settings) (environment : Table Text) (folder : Option Text)
    (name : Text)
    (arguments : List Text) : Within InPlace (Program.run settings environment folder name arguments) := by
  refine .bind (within_start _ environment folder) fun code => ?_
  split
  · exact within_startSuffixed _ _ _ _ _ _
  · exact .value _

private theorem within_takeInput : Within InPlace World.takeInput := fun world => .refl world.files

end Worlds

section Commands

/-- The session is in the same folder, remembers the same one, and the process is where it was. -/
structure Stays (shell after : Shell) : Prop where
  current : after.session.current = shell.session.current
  previous : after.session.previous = shell.session.previous
  places : InPlace shell.world after.world

instance : Lasting Stays where
  refl shell := ⟨rfl, rfl, .refl shell.world.files⟩
  trans first second :=
    ⟨second.current.trans first.current, second.previous.trans first.previous, first.places.trans second.places⟩

theorem within_inWorld {α : Type} {act : Act World α} (within : Within InPlace act) :
    Within Stays (inWorld act) := fun shell => ⟨rfl, rfl, within shell.world⟩

theorem within_changeSession {change : Session → Session}
    (current : ∀ session, (change session).current = session.current)
    (previous : ∀ session, (change session).previous = session.previous) :
    Within Stays (changeSession change) :=
  .change fun shell => ⟨current shell.session, previous shell.session, .refl shell.world.files⟩

private theorem within_display (notice : Notice) : Within Stays (display notice) :=
  .read fun _ => .bind (.result _) fun _ => .change fun shell => ⟨rfl, rfl, .refl shell.world.files⟩

theorem within_answer {α : Type} (notice : Notice) (value : α) :
    Within Stays (do display notice; return value) :=
  .bind (within_display notice) fun _ => .value value

private theorem within_runExit (arguments : List Text) : Within Stays (runExit arguments) := by
  have leave (code : Int) : Within Stays (do
      changeSession fun session => { session with running := false }
      return Reply.status code) :=
    .bind (within_changeSession (fun _ => rfl) fun _ => rfl) fun _ => .value _
  unfold runExit
  split
  · exact .read fun shell => leave _
  · split
    · exact leave _
    · exact .value _
  · exact .value _

private theorem within_runSet (arguments : List Text) : Within Stays (runSet arguments) := by
  rw [runSet_eq]
  split
  · exact .read fun shell => within_answer _ _
  · unfold assign
    split
    · exact .bind (within_changeSession (fun _ => rfl) fun _ => rfl) fun _ => .value _
    · exact .value _

private theorem within_runExport (arguments : List Text) : Within Stays (runExport arguments) := by
  unfold runExport
  split
  · exact .read fun shell => within_answer _ _
  · split
    · exact .value _
    · exact .bind (within_changeSession (fun _ => rfl) fun _ => rfl) fun _ => .value _

private theorem within_runUnset (arguments : List Text) : Within Stays (runUnset arguments) := by
  unfold runUnset
  split
  · exact .value _
  · exact .read fun shell => .bind (within_changeSession (fun _ => rfl) fun _ => rfl) fun _ => .value _

private theorem within_runAbbr (arguments : List Text) : Within Stays (runAbbr arguments) := by
  refine .read fun shell => ?_
  have saved (table : Abbreviations) : Within Stays (do inWorld table.save; return Reply.status 0) :=
    .bind (within_inWorld (within_save table)) fun _ => .value _
  dsimp only
  split
  · exact within_answer _ _
  · exact .bind (within_changeSession (fun _ => rfl) fun _ => rfl) fun _ => saved _
  · refine .bind (within_changeSession (fun _ => rfl) fun _ => rfl) fun _ => ?_
    split
    · exact saved _
    · exact within_answer _ _
  · exact .value _

private theorem within_runCopy (arguments : List Text) : Within Stays (runCopy arguments) := by
  have copied (text : Text) : Within Stays (copy text) := by
    refine .read fun shell => ?_
    split
    · exact within_answer _ _
    · exact .bind (.change fun shell => ⟨rfl, rfl, .refl shell.world.files⟩) fun _ => .value _
  rw [runCopy_eq]
  dsimp only
  split
  · exact .bind (within_inWorld within_takeInput) copied
  · exact .bind (.value _) copied

private theorem within_runPaste : Within Stays runPaste := by
  refine .read fun shell => ?_
  split
  · exact within_answer _ _
  · exact within_answer _ _

private theorem within_runHistory (arguments : List Text) : Within Stays (runHistory arguments) := by
  unfold runHistory
  split
  · exact .read fun shell => within_answer _ _
  · exact .value _

private theorem within_runBuiltin {builtin : Builtin} (other : builtin ≠ .cd) (arguments : List Text) :
    Within Stays (runBuiltin builtin arguments) := by
  cases builtin with
  | abbr => exact within_runAbbr arguments
  | cd => exact absurd rfl other
  | exit => exact within_runExit arguments
  | «export» => exact within_runExport arguments
  | history => exact within_runHistory arguments
  | pbcopy => exact within_runCopy arguments
  | pbpaste => exact within_runPaste
  | pwd => exact .read fun shell => within_answer _ _
  | set => exact within_runSet arguments
  | unset => exact within_runUnset arguments

private theorem within_runProgram (name : Text) (arguments : List Text) :
    Within Stays (runProgram name arguments) := by
  refine .read fun shell => .bind (within_inWorld (within_run _ _ _ _ _)) fun code => ?_
  split
  · refine .bind (within_inWorld (within_note _ _ _)) fun _ => .read fun shell => ?_
    exact .bind (.result _) fun suggestions => within_answer _ _
  · exact .value _

theorem within_runCommand {command : Command} (other : Builtin.ofName? command.program ≠ some .cd) :
    Within Stays (runCommand command) := by
  unfold runCommand
  split
  next => exact within_runProgram _ _
  next builtin called =>
    have other : builtin ≠ .cd := by
      rintro rfl
      exact other called
    refine .bind (within_runBuiltin other _) fun reply => ?_
    split
    · exact .value _
    · exact within_answer _ _

end Commands

end CommandShell.Proofs.FolderKeeping
