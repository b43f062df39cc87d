import CommandShell.Proofs.FolderGrowth
import CommandShell.Proofs.StandingFolders

/-! The path of an entry, its name behind the path of the folder that it was listed in. It leads from the
folder to the entry, and on where the entry is a link. -/

namespace CommandShell.Proofs.EntryPaths
open Files FolderGrowth FolderWalks HomePaths StandingFolders

variable {files : Files} {links : Nat} {place last : Place} {rest : List Step} {folder name : Text}

section Walks

/-- A walk that has come to a place goes on from there, with the links that are left. -/
theorem walk_resumed {follow : Bool} {spot : Spot} (leads : Leads files follow links place rest spot)
    (follows : follow = true) (ends : spot = .node last) :
    ∃ left, ∀ more, files.walk follow links place (rest ++ more) = files.walk follow left last more := by
  subst follows
  induction leads with
  | @arrived links =>
    cases ends
    exact ⟨links, fun _ => rfl⟩
  | folder here _ ih | stay here _ ih | up here _ ih =>
    obtain ⟨left, on⟩ := ih ends
    refine ⟨left, fun more => (?_ : _ = _).trans (on more)⟩
    rw [walk_eq_pass]
    simp only [List.cons_append, Files.pass, here]
  | free => cases ends
  | last _ _ _ stays => cases stays
  | link here fits there _ _ ih =>
    obtain ⟨left, on⟩ := ih ends
    refine ⟨left, fun more => (?_ : _ = _).trans (on more)⟩
    rw [walk_eq_pass]
    simp [Files.pass, here, fits, there, jump]
  | @enter _ _ _ _ node _ here fits there noLink _ ih =>
    obtain ⟨left, on⟩ := ih ends
    refine ⟨left, fun more => (?_ : _ = _).trans (on more)⟩
    rw [walk_eq_pass]
    cases node with
    | link target => exact absurd rfl (noLink target)
    | folder closed => simp [Files.pass, here, fits, there]
    | file content access => simp [Files.pass, here, fits, there]

private theorem pass_slash {jump : Place → List Step → Except FileProblem Spot} {name : Text}
    (jumps : ∀ place front, jump place (front ++ [.folder, .name name]) = jump place (front ++ [.name name]))
    (files : Files) (place : Place) (front : List Step) :
    files.pass true jump place (front ++ [.folder, .name name]) =
      files.pass true jump place (front ++ [.name name]) := by
  fun_induction Files.pass files true jump place front with
  | case1 place =>
    cases here : files.node? place with
    | none => simp [Files.pass, here]
    | some node =>
      cases node with
      | file | link => simp [Files.pass, here]
      | folder closed => cases closed <;> simp [Files.pass, here]
  | case10 place rest step here fits target there follows =>
    simp [Files.pass, here, fits, there, ← List.append_assoc, jumps]
  -- Before the end of the front both walks take the same step.
  | _ => simp_all [Files.pass]

/-- Asking for a folder before a name changes nothing, since a name asks for one too. -/
theorem walk_slash (files : Files) (links : Nat) (place : Place) (front : List Step) (name : Text) :
    files.walk true links place (front ++ [.folder, .name name]) =
      files.walk true links place (front ++ [.name name]) := by
  induction links generalizing place front with
  | zero => exact pass_slash (fun _ _ => rfl) files place front
  | succ links ih => exact pass_slash ih files place front

end Walks

section Steps

def piecesOf (path : Text) : List Text := (Text.splitOn '/' path).filter (!·.isEmpty)

def stepOf (part : Text) : Step :=
  if part = ['.'] then .stay else if part = ['.', '.'] then .up else .name part

/-- The steps of a path, but for the one that a slash at its end makes. -/
def frontOf (path : Text) : List Step := (piecesOf path).map stepOf

private theorem steps_front (path : Text) :
    steps path = frontOf path ∨ steps path = frontOf path ++ [.folder] := by
  unfold steps
  dsimp only
  split
  · exact .inr rfl
  · exact .inl rfl

private theorem steps_unslashed {path : Text} (ends : path.getLast? ≠ some '/') :
    steps path = frontOf path := by
  unfold steps
  dsimp only
  rw [if_neg (by simp [ends])]
  rfl

private theorem piecesOf_slash (path rest : Text) :
    piecesOf (path ++ '/' :: rest) = piecesOf path ++ piecesOf rest := by
  rw [piecesOf, Text.splitOn, List.splitOn_append_cons_self, List.filter_append]
  rfl

private theorem piecesOf_name (named : Name name) : piecesOf name = [name] := by
  rw [piecesOf, Text.splitOn, List.splitOn_eq_singleton named.single, List.filter_cons_of_pos]
  · rfl
  · simpa using named.filled

theorem relative_name (named : Name name) : ¬ Path.isAbsolute name = true := by
  cases name with
  | nil => exact absurd rfl named.filled
  | cons c rest =>
    have other : c ≠ '/' := fun same => named.single (same ▸ List.mem_cons_self)
    simpa [Path.isAbsolute] using other

private theorem getLast?_join (named : Name name) (folder : Text) :
    (Path.join folder name).getLast? ≠ some '/' := by
  have last (front : Text) : (front ++ name).getLast? ≠ some '/' := by
    intro ends
    rw [List.getLast?_append_of_ne_nil _ named.filled] at ends
    exact named.single (List.mem_of_getLast? ends)
  rw [Path.join, if_neg (relative_name named)]
  split
  · exact last folder
  · have whole : folder ++ '/' :: name = folder ++ ['/'] ++ name := by simp
    exact whole ▸ last (folder ++ ['/'])

private theorem steps_join (named : Name name) (folder : Text) :
    steps (Path.join folder name) = frontOf folder ++ [.name name] := by
  have parts : piecesOf (Path.join folder name) = piecesOf folder ++ [name] := by
    rw [parts_join piecesOf_slash rfl (relative_name named) folder, piecesOf_name named]
  have front : frontOf (Path.join folder name) = frontOf folder ++ [.name name] := by
    rw [frontOf, parts, List.map_append, frontOf, List.map_singleton, stepOf, if_neg named.noDot,
      if_neg named.noDots]
  rw [steps_unslashed (getLast?_join named folder), front]

private theorem start_join (named : Name name) (folder : Text) (here : Place) :
    start (Path.join folder name) here = start folder here := by
  rw [start, HomePaths.isAbsolute_join, Bool.eq_false_iff.mpr (relative_name named), Bool.false_or]
  rfl

end Steps

/-- No place has two nodes, and each is named as an entry can be. -/
structure Sound (files : Files) : Prop where
  distinct : Distinct files
  names : ∀ entry ∈ files.nodes, ∀ name ∈ entry.1, Name name

/-- The path of an entry that is no link leads to the entry, if it leads anywhere. -/
theorem find_entry {node found : Node} (named : Name name)
    (folded : files.find folder = .ok (place, .folder false))
    (there : files.node? (place ++ [name]) = some node) (noLink : ∀ target, node ≠ .link target)
    (led : files.find (Path.join folder name) = .ok (last, found)) :
    last = place ++ [name] ∧ found = node := by
  obtain ⟨spotted, here⟩ := find_iff.mp folded
  obtain ⟨-, -, leads⟩ := spot_iff.mp spotted
  obtain ⟨spotted', there'⟩ := find_iff.mp led
  obtain ⟨-, -, leads'⟩ := spot_iff.mp spotted'
  obtain ⟨left, resumed⟩ := walk_resumed leads rfl rfl
  -- With or without a slash at the end of the folder, the walk comes to it and goes on with the name.
  have whole : files.walk true left place [.name name] = .ok (.node last) := by
    rw [start_join named, steps_join named] at leads'
    rw [← walk_of_leads leads', ← resumed]
    rcases steps_front folder with plain | slashed
    · rw [plain]
    · rw [slashed, List.append_assoc, ← walk_slash]
      rfl
  rw [walk_eq_pass] at whole
  have arrived : last = place ++ [name] := by
    by_cases fits : byteSize name > nameLimit
    · simp [Files.pass, here, fits] at whole
    · cases node with
      | link target => exact absurd rfl (noLink target)
      | folder | file => simpa [Files.pass, here, fits, there, eq_comm] using whole
  subst arrived
  exact ⟨rfl, Option.some.inj (there'.symm.trans there)⟩

def IsProgram (files : Files) (path : Text) : Prop :=
  ∃ place content, files.find path = .ok (place, .file content .program)

/-- A folder that can be listed has an entry with a name, and the path of the entry leads to a program. -/
def Holds (files : Files) (folder name : Text) : Prop :=
  (∃ place entries node, files.list folder = .ok (place, entries) ∧ (name, node) ∈ entries) ∧
    IsProgram files (Path.join folder name)

private theorem isProgram_iff (files : Files) (path : Text) :
    IsProgram files path ↔ files.isFile path = true ∧ files.isRunnable path = true := by
  unfold IsProgram Files.isFile Files.isRunnable
  cases files.find path with
  | error problem => simp
  | ok pair =>
    obtain ⟨place, node⟩ := pair
    cases node <;> simp

theorem entryIsProgram_iff (sound : Sound files) {entries : List (Text × Node)} {node : Node}
    (listed : files.list folder = .ok (place, entries)) (inside : (name, node) ∈ entries) :
    files.entryIsProgram folder name node = true ↔ IsProgram files (Path.join folder name) := by
  obtain ⟨folded, rfl⟩ := find_of_list listed
  have member := mem_entries.mp inside
  have there := node?_of_mem sound.distinct (by simp) member
  have named : Name name := sound.names _ member name (by simp)
  cases node with
  | link target =>
    rw [isProgram_iff, Files.entryIsProgram, Bool.and_eq_true]
  | folder closed =>
    refine ⟨nofun, fun ⟨last, content, led⟩ => ?_⟩
    cases (find_entry named folded there nofun led).2
  | file content access =>
    constructor
    · intro runs
      obtain ⟨program, runnable⟩ :
          access = .program ∧ files.isRunnable (Path.join folder name) = true := by
        simpa [Files.entryIsProgram] using runs
      unfold Files.isRunnable at runnable
      cases led : files.find (Path.join folder name) with
      | error problem =>
        rw [led] at runnable
        cases runnable
      | ok pair =>
        obtain ⟨-, same⟩ := find_entry named folded there nofun led
        exact ⟨pair.1, content, by rw [led, ← program, ← same]⟩
    · rintro ⟨last, content, led⟩
      obtain ⟨-, same⟩ := find_entry named folded there nofun led
      cases same
      simp [Files.entryIsProgram, Files.isRunnable, led]

end CommandShell.Proofs.EntryPaths
