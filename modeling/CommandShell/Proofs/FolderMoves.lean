import CommandShell.Proofs.ActSteps
import CommandShell.Execute

/-! What `cd` does: it enters a folder, and the session follows, or it changes nothing but the screen. -/

namespace CommandShell.Proofs.FolderMoves
open Shell ActSteps

def Shown (shell after : Shell) : Prop := ∃ screen, after = { shell with screen }

theorem shown_answer {shell after : Shell} (shown : Shown shell after) (notice : Notice) (reply : Reply) :
    Shown shell ((do display notice; return reply : Act Shell Reply).on after).2 := by
  obtain ⟨before, rfl⟩ := shown
  simp only [display, on_bind, on_get, on_ofExcept]
  cases before.present shell.settings notice with
  | error fault => exact ⟨before, rfl⟩
  | ok screen => exact ⟨screen, rfl⟩

def movedTo (shell : Shell) (files : Files) : Shell :=
  let world := { shell.world with files }
  { shell with
    world
    session := { shell.session with previous := some shell.session.current }.followProcess world }

private theorem enter_cases (target : Text) (world : World) :
    (∃ files, world.files.enter target = .ok files ∧
      (World.enter target).on world = (.ok ⟨⟩, { world with files })) ∨
    ∃ fault, (World.enter target).on world = (.error fault, world) := by
  unfold World.enter World.editAt World.atPath
  by_cases null : target.contains '\x00' = true
  · rw [if_pos null]
    exact .inr ⟨_, rfl⟩
  · rw [if_neg null]
    simp only [on_bind, on_get]
    cases entered : world.files.enter target with
    | ok files => exact .inl ⟨files, rfl, rfl⟩
    | error problem => exact .inr ⟨_, rfl⟩

inductive Asks (shell : Shell) : List Text → Text → Prop
  | home {target} (known : shell.session.home shell.world = .ok target) : Asks shell [] target
  | back {target} (left : shell.session.previous = some target) : Asks shell [['-']] target
  | path {path target} (other : path ≠ ['-'])
      (expanded : shell.session.expandPath shell.world path = .ok target) : Asks shell [path] target

/-- A folder that was asked for is entered and the status is 0, or only the screen changes and the status
is another one. -/
inductive Goes (shell : Shell) (asked : Text → Prop) : Except Fault Reply × Shell → Prop
  | entered {target files} (asks : asked target) (enters : shell.world.files.enter target = .ok files) :
      Goes shell asked (.ok (.status 0), movedTo shell files)
  | stayed {result after} (failed : result ≠ .ok (.status 0)) (shown : Shown shell after) :
      Goes shell asked (result, after)

variable {shell : Shell} {asked : Text → Prop}

private theorem goes_complaint (notice : Notice) :
    Goes shell asked ((do display notice; return .status 1 : Act Shell Reply).on shell) := by
  have fixed : Yields (do display notice; return Reply.status 1 : Act Shell Reply) (· = .status 1) :=
    (Yields.anything _).bind fun _ _ => .value rfl
  refine .stayed (fun same => ?_) (shown_answer ⟨shell.screen, rfl⟩ _ _)
  cases fixed shell _ same

private theorem changeFolder_goes (arguments : List Text) {target : Text} (asks : asked target) :
    Goes shell asked ((changeFolder arguments target).on shell) := by
  simp only [changeFolder, on_bind, on_get, on_attempt, inWorld, on_part]
  obtain ⟨files, enters, ran⟩ | ⟨fault, ran⟩ := enter_cases target shell.world
  · rw [ran]
    exact .entered asks enters
  · rw [ran]
    dsimp only
    by_cases refused : fault.isFile = true
    · rw [if_pos refused]
      exact goes_complaint _
    · rw [if_neg refused]
      exact .stayed nofun ⟨shell.screen, rfl⟩

theorem runCd_goes (shell : Shell) (arguments : List Text) :
    Goes shell (Asks shell arguments) ((runCd arguments).on shell) := by
  have enter {target : Except Fault Text} (asks : ∀ path, target = .ok path → Asks shell arguments path) :
      Goes shell (Asks shell arguments) ((do changeFolder arguments (← Act.ofExcept target)).on shell) := by
    rw [on_bind, on_ofExcept]
    cases target with
    | ok path => exact changeFolder_goes arguments (asks path rfl)
    | error fault => exact .stayed nofun ⟨shell.screen, rfl⟩
  unfold runCd
  rw [on_bind, on_get]
  dsimp only
  split
  next => exact enter fun path known => .home known
  next =>
    split
    next c previous left => exact changeFolder_goes _ (.back left)
    next => exact goes_complaint _
  next path other =>
    exact enter fun target expanded => .path other expanded
  next => exact .stayed nofun ⟨shell.screen, rfl⟩

end CommandShell.Proofs.FolderMoves
