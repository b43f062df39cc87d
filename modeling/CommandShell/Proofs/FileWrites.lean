import CommandShell.Proofs.HistoryFile

/-! What is found at a path after something was written there, and after folders were made. -/

namespace CommandShell.Proofs.FileWrites
open Files FolderWalks

variable {files other : Files} {follow : Bool} {links : Nat} {place : Place} {rest : List Step}
  {spot : Spot} {path : Text} {node : Node}

def endOf : Spot → Place
  | .node place => place
  | .free folder name => folder ++ [name]

/-- Folders and links are still where they were. -/
def Kept (files other : Files) : Prop :=
  ∀ place node, passage? files place = some node → other.node? place = some node

theorem Kept.folder (kept : Kept files other) {closed : Bool}
    (here : files.node? place = some (.folder closed)) : other.node? place = some (.folder closed) :=
  kept place _ (passage?_folder.mpr here)

theorem Kept.link (kept : Kept files other) {target : Text}
    (here : files.node? place = some (.link target)) : other.node? place = some (.link target) :=
  kept place _ (passage?_link.mpr here)

theorem kept_of_sameFolders (same : SameFolders files other) : Kept files other := by
  intro place node passes
  rw [same place] at passes
  exact (passage?_eq_some.mp passes).1

theorem Kept.refl (files : Files) : Kept files files := kept_of_sameFolders (.refl files)

theorem Kept.trans {more : Files} (kept : Kept files other) (kept' : Kept other more) : Kept files more := by
  intro place node passes
  have noFile := (passage?_eq_some.mp passes).2
  exact kept' place node (passage?_eq_some.mpr ⟨kept place node passes, noFile⟩)

/-- A walk leads to the same place once a folder or a file stands at its end. -/
theorem leads_to_node (kept : Kept files other) (leads : Leads files follow links place rest spot)
    (there : other.node? (endOf spot) = some node) (noLink : ∀ target, node ≠ .link target) :
    Leads other true links place rest (.node (endOf spot)) := by
  induction leads with
  | arrived => exact .arrived
  | folder here _ ih => exact .folder (kept.folder here) (ih there)
  | stay here _ ih => exact .stay (kept.folder here) (ih there)
  | up here _ ih => exact .up (kept.folder here) (ih there)
  | free here fits _ => exact .enter (kept.folder here) fits there noLink .arrived
  | last here fits link _ =>
    obtain rfl := Option.some.inj ((kept.link link).symm.trans there)
    exact absurd rfl (noLink _)
  | link here fits link follows _ ih =>
    exact .link (kept.folder here) fits (kept.link link) (.inr rfl) (ih there)
  | @enter _ _ _ _ passed _ here fits found noLink' on ih =>
    cases passed with
    | link target => exact absurd rfl (noLink' target)
    | folder closed => exact .enter (kept.folder here) fits (kept.folder found) nofun (ih there)
    | file content access =>
      obtain rfl := on.at_file found
      cases on
      exact .enter (kept.folder here) fits there noLink .arrived

theorem find_of_spot (kept : Kept files other) (here : other.here = files.here)
    (led : files.spot follow path = .ok spot) (there : other.node? (endOf spot) = some node)
    (noLink : ∀ target, node ≠ .link target) : other.find path = .ok (endOf spot, node) := by
  obtain ⟨filled, fits, leads⟩ := spot_iff.mp led
  refine find_iff.mpr ⟨spot_iff.mpr ⟨filled, fits, ?_⟩, there⟩
  rw [here]
  exact leads_to_node kept leads there noLink

/-- A change of a file leaves it with the content that it gets. -/
theorem find_change {content : Bytes} {access : Access}
    (found : files.find path = .ok (place, .file content access)) (opens : access ≠ .closed)
    (edit : Bytes → Bytes) :
    ∃ after, files.change path edit = .ok after ∧
      after.find path = .ok (place, .file (edit content) access) := by
  obtain ⟨led, there⟩ := find_iff.mp found
  have filled := filled_of_file there
  have written : files.change path edit = .ok (files.put place (.file (edit content) access)) := by
    rw [Files.change, led]
    dsimp only [bind, Except.bind]
    rw [there]
    cases access with
    | closed => exact absurd rfl opens
    | plain | program => rfl
  obtain ⟨same, here⟩ := SameFolders.change written
  refine ⟨_, written, find_of_spot (kept_of_sameFolders same) here led ?_ nofun⟩
  rw [endOf, node?_put filled, if_pos rfl]

theorem find_change_free {folder : Place} {name : Text}
    (led : files.spot true path = .ok (.free folder name)) (edit : Bytes → Bytes) :
    ∃ after, files.change path edit = .ok after ∧
      after.find path = .ok (folder ++ [name], .file (edit []) .plain) := by
  have written : files.change path edit = .ok (files.put (folder ++ [name]) (.file (edit []) .plain)) := by
    rw [Files.change, led]
    rfl
  obtain ⟨same, here⟩ := SameFolders.change written
  refine ⟨_, written, find_of_spot (kept_of_sameFolders same) here led ?_ nofun⟩
  rw [endOf, node?_put (by simp), if_pos rfl]

theorem kept_put (absent : files.node? place = none) (node : Node) : Kept files (files.put place node) := by
  have filled : place ≠ [] := by
    rintro rfl
    cases absent
  intro asked found passes
  have here := (passage?_eq_some.mp passes).1
  have apart : asked ≠ place := by
    rintro rfl
    rw [absent] at here
    cases here
  rw [node?_put filled, if_neg apart]
  exact here

theorem makeFolder_put {made : Files} (makes : files.makeFolder path = .ok made) :
    ∃ folder name, files.spot false path = .ok (.free folder name) ∧
      files.node? (folder ++ [name]) = none ∧ made = files.put (folder ++ [name]) (.folder false) := by
  cases led : files.spot false path with
  | error problem =>
    rw [Files.makeFolder, led] at makes
    cases makes
  | ok spot =>
    rw [Files.makeFolder, led] at makes
    cases spot with
    | node place => cases makes
    | free folder name =>
      cases makes
      obtain ⟨-, -, leads⟩ := spot_iff.mp led
      exact ⟨folder, name, rfl, leads.absent rfl, rfl⟩

private theorem find_makeFolder {made : Files} (makes : files.makeFolder path = .ok made) :
    ∃ place, made.find path = .ok (place, .folder false) := by
  obtain ⟨folder, name, led, absent, rfl⟩ := makeFolder_put makes
  refine ⟨_, find_of_spot (kept_put absent _) (put_here _ _ _) led ?_ fun target same => by cases same⟩
  rw [endOf, node?_put (by simp), if_pos rfl]

private theorem find_folderAt (asked : files.folderAt path = .ok true) :
    ∃ place closed, files.find path = .ok (place, .folder closed) := by
  unfold Files.folderAt at asked
  split at asked
  next place closed found => exact ⟨place, closed, found⟩
  next => cases asked
  next => split at asked <;> cases asked

theorem find_ensureFolder {made : Files} (ensured : files.ensureFolder path = .ok made) :
    ∃ place closed, made.find path = .ok (place, .folder closed) := by
  unfold Files.ensureFolder at ensured
  split at ensured
  next other makes =>
    obtain rfl := Except.ok.inj ensured
    obtain ⟨place, found⟩ := find_makeFolder makes
    exact ⟨place, false, found⟩
  next => cases ensured
  next =>
    cases asked : files.folderAt path with
    | error problem =>
      rw [asked] at ensured
      cases ensured
    | ok stands =>
      rw [asked] at ensured
      cases stands with
      | false => cases ensured
      | true =>
        cases ensured
        exact find_folderAt asked

theorem find_ensureFolders {root : Text} {reversed : List Text} {made : Files}
    (ensured : files.ensureFolders root reversed = (made, .ok ())) :
    ∃ place closed, made.find (Path.text ⟨root, reversed.reverse⟩) = .ok (place, .folder closed) := by
  cases reversed with
  | nil =>
    simp only [Files.ensureFolders] at ensured
    split at ensured
    next other makes =>
      cases ensured
      exact find_ensureFolder makes
    next => cases ensured
  | cons name above =>
    simp only [Files.ensureFolders] at ensured
    split at ensured
    next other makes =>
      cases ensured
      exact find_ensureFolder makes
    next =>
      split at ensured
      next => cases ensured
      next =>
        split at ensured
        next other makes =>
          cases ensured
          exact find_ensureFolder makes
        next => cases ensured
    next => cases ensured

section Lasting

variable {relation : Files → Files → Prop} [ActSteps.Lasting relation]
  (makes : ∀ {files made : Files} {path : Text}, files.makeFolder path = .ok made → relation files made)

include makes

theorem ensureFolder_lasting {made : Files} (ensured : files.ensureFolder path = .ok made) :
    relation files made := by
  unfold Files.ensureFolder at ensured
  split at ensured
  next other made =>
    cases ensured
    exact makes made
  next => cases ensured
  next =>
    cases asked : files.folderAt path with
    | error problem =>
      rw [asked] at ensured
      cases ensured
    | ok stands =>
      rw [asked] at ensured
      cases stands with
      | false => cases ensured
      | true =>
        cases ensured
        exact ActSteps.Lasting.refl files

/-- Making folders does what making one folder does, over and over. What was made before a refusal
stays. -/
theorem ensureFolders_lasting (files : Files) (root : Text) (reversed : List Text) :
    relation files (files.ensureFolders root reversed).1 := by
  induction reversed with
  | nil =>
    rw [Files.ensureFolders]
    split
    next made ensured => exact ensureFolder_lasting makes ensured
    next => exact ActSteps.Lasting.refl files
  | cons name above ih =>
    rw [Files.ensureFolders]
    split
    next made ensured => exact ensureFolder_lasting makes ensured
    next =>
      split
      next made refused rest =>
        rw [rest] at ih
        exact ih
      next made rest =>
        rw [rest] at ih
        split
        next last ensured => exact ActSteps.Lasting.trans ih (ensureFolder_lasting makes ensured)
        next => exact ih
    next => exact ActSteps.Lasting.refl files

end Lasting

end CommandShell.Proofs.FileWrites
