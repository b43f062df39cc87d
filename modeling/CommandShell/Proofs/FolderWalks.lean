import CommandShell.World

/-! Where paths lead, and what that depends on. A walk passes folders and links only; whether there
is a file somewhere decides at most how it fails. -/

namespace CommandShell.Proofs.FolderWalks
open Files

/-- A walk that does not fail, and the spot that it ends at. -/
inductive Leads (files : Files) (follow : Bool) : (links : Nat) → Place → List Step → Spot → Prop
  | arrived {links place} : Leads files follow links place [] (.node place)
  | folder {links place rest spot closed} (here : files.node? place = some (.folder closed))
      (on : Leads files follow links place rest spot) :
      Leads files follow links place (.folder :: rest) spot
  | stay {links place rest spot} (here : files.node? place = some (.folder false))
      (on : Leads files follow links place rest spot) :
      Leads files follow links place (.stay :: rest) spot
  | up {links place rest spot} (here : files.node? place = some (.folder false))
      (on : Leads files follow links place.dropLast rest spot) :
      Leads files follow links place (.up :: rest) spot
  | free {links place name} (here : files.node? place = some (.folder false))
      (fits : ¬ byteSize name > nameLimit) (absent : files.node? (place ++ [name]) = none) :
      Leads files follow links place [.name name] (.free place name)
  | last {links place name target} (here : files.node? place = some (.folder false))
      (fits : ¬ byteSize name > nameLimit) (there : files.node? (place ++ [name]) = some (.link target))
      (stays : follow = false) :
      Leads files follow links place [.name name] (.node (place ++ [name]))
  | link {links place name rest target spot} (here : files.node? place = some (.folder false))
      (fits : ¬ byteSize name > nameLimit) (there : files.node? (place ++ [name]) = some (.link target))
      (follows : rest ≠ [] ∨ follow = true)
      (on : Leads files follow links (start target place) (steps target ++ rest) spot) :
      Leads files follow (links + 1) place (.name name :: rest) spot
  | enter {links place name rest node spot} (here : files.node? place = some (.folder false))
      (fits : ¬ byteSize name > nameLimit) (there : files.node? (place ++ [name]) = some node)
      (noLink : ∀ target, node ≠ .link target)
      (on : Leads files follow links (place ++ [name]) rest spot) :
      Leads files follow links place (.name name :: rest) spot

variable {files other : Files} {follow : Bool} {links : Nat} {place : Place} {rest : List Step}
  {spot : Spot}

/-- Where a walk goes on behind a link. -/
def jump (files : Files) (follow : Bool) : (links : Nat) → Place → List Step → Except FileProblem Spot
  | 0, _, _ => .error .linkLoop
  | links + 1, place, rest => files.walk follow links place rest

theorem walk_eq_pass (files : Files) (follow : Bool) (links : Nat) :
    files.walk follow links = files.pass follow (jump files follow links) := by
  cases links with
  | zero => rfl
  | succ links => rfl

private theorem leads_of_pass {jump : Place → List Step → Except FileProblem Spot}
    (jumps : ∀ {place rest spot}, jump place rest = .ok spot →
      ∃ left, links = left + 1 ∧ Leads files follow left place rest spot)
    (led : files.pass follow jump place rest = .ok spot) : Leads files follow links place rest spot := by
  -- Only the cases in which the walk goes on or ends well are left once the failing ones close.
  fun_induction Files.pass files follow jump place rest with
  | case1 =>
    cases led
    exact .arrived
  | case2 place rest closed here ih => exact .folder here (ih led)
  | case4 place rest here ih => exact .stay here (ih led)
  | case5 place rest here ih => exact .up here (ih led)
  | case7 place rest name here fits absent ended =>
    cases led
    obtain rfl := List.isEmpty_iff.mp ended
    exact .free here fits absent
  | case9 place rest name here fits target there ended =>
    cases led
    simp only [Bool.and_eq_true, List.isEmpty_iff, Bool.not_eq_true'] at ended
    obtain ⟨rfl, stays⟩ := ended
    exact .last here fits there stays
  | case10 place rest name here fits target there follows =>
    obtain ⟨left, rfl, on⟩ := jumps led
    refine .link here fits there ?_ on
    cases rest with
    | nil => exact .inr (by simpa using follows)
    | cons step rest => exact .inl (List.cons_ne_nil step rest)
  | case11 place rest name here fits node noLink there ih =>
    exact .enter here fits there noLink (ih led)
  | _ => cases led

private theorem leads_of_walk (led : files.walk follow links place rest = .ok spot) :
    Leads files follow links place rest spot := by
  induction links generalizing place rest spot with
  | zero => exact leads_of_pass (fun jumped => by cases jumped) led
  | succ links ih => exact leads_of_pass (fun jumped => ⟨links, rfl, ih jumped⟩) led

theorem walk_of_leads (leads : Leads files follow links place rest spot) :
    files.walk follow links place rest = .ok spot := by
  induction leads with
  | arrived => rw [walk_eq_pass, Files.pass]
  | folder here on ih | stay here on ih | up here on ih =>
    rw [walk_eq_pass] at ih ⊢
    simpa only [Files.pass, here] using ih
  | free here fits absent =>
    rw [walk_eq_pass]
    simp only [Files.pass, here, if_neg fits, absent, List.isEmpty_nil, if_true]
  | last here fits there stays =>
    rw [walk_eq_pass]
    simp only [Files.pass, here, if_neg fits, there, stays, List.isEmpty_nil, Bool.not_false, Bool.and_self, if_true]
  | @link links place name rest target spot here fits there follows on ih =>
    have on : ¬ (rest.isEmpty && !follow) = true := by
      obtain more | follow := follows
      · simp [more]
      · simp [follow]
    rw [walk_eq_pass]
    simp only [Files.pass, here, if_neg fits, there, if_neg on]
    exact ih
  | @enter links place name rest node spot here fits there noLink on ih =>
    rw [walk_eq_pass] at ih ⊢
    cases node with
    | link target => exact absurd rfl (noLink target)
    | folder closed => simpa only [Files.pass, here, if_neg fits, there] using ih
    | file content access => simpa only [Files.pass, here, if_neg fits, there] using ih

private theorem pass_moved (files : Files) (here : Place) : Files.pass { files with here } = files.pass := by
  funext follow jump place rest
  induction rest generalizing place with
  | nil => rfl
  | cons step rest ih =>
    unfold Files.pass
    simp only [ih]
    rfl

private theorem walk_moved (files : Files) (here : Place) : Files.walk { files with here } = files.walk := by
  funext follow links
  induction links with
  | zero => rw [Files.walk, Files.walk, pass_moved]
  | succ links ih => rw [Files.walk, Files.walk, pass_moved, ih]

theorem Leads.at_file {content : Bytes} {access : Access}
    (leads : Leads files follow links place rest spot)
    (here : files.node? place = some (.file content access)) : rest = [] := by
  cases leads with
  | arrived => rfl
  | folder there | stay there | up there | free there | last there | link there | enter there =>
    rw [here] at there
    cases there

/-- What a walk can pass at a place: a folder or a link. A file counts as nothing. -/
def passage? (files : Files) (place : Place) : Option Node :=
  match files.node? place with
  | some (.file _ _) => none
  | found => found

def SameFolders (files other : Files) : Prop :=
  ∀ place, passage? files place = passage? other place

theorem passage?_eq_some {node : Node} : passage? files place = some node ↔
    files.node? place = some node ∧ ∀ content access, node ≠ .file content access := by
  unfold passage?
  split
  next content access here =>
    refine ⟨nofun, fun ⟨there, noFile⟩ => ?_⟩
    obtain rfl := Option.some.inj (here.symm.trans there)
    exact absurd rfl (noFile content access)
  next noFile => exact ⟨fun there => ⟨there, fun _ _ same => noFile _ _ (same ▸ there)⟩, And.left⟩

theorem passage?_folder {closed : Bool} :
    passage? files place = some (.folder closed) ↔ files.node? place = some (.folder closed) := by
  simp [passage?_eq_some]

theorem passage?_link {target : Text} :
    passage? files place = some (.link target) ↔ files.node? place = some (.link target) := by
  simp [passage?_eq_some]

namespace SameFolders

theorem refl (files : Files) : SameFolders files files := fun _ => rfl

theorem symm (same : SameFolders files other) : SameFolders other files := fun place => (same place).symm

theorem trans {more : Files} (same : SameFolders files other) (same' : SameFolders other more) :
    SameFolders files more := fun place => (same place).trans (same' place)

theorem folder (same : SameFolders files other) {closed : Bool}
    (here : files.node? place = some (.folder closed)) : other.node? place = some (.folder closed) :=
  passage?_folder.mp ((same place).symm.trans (passage?_folder.mpr here))

theorem link (same : SameFolders files other) {target : Text}
    (here : files.node? place = some (.link target)) : other.node? place = some (.link target) :=
  passage?_link.mp ((same place).symm.trans (passage?_link.mpr here))

theorem leads (same : SameFolders files other) (leads : Leads files follow links place rest spot)
    {last : Place} (ends : spot = .node last) (passes : passage? files last ≠ none) :
    Leads other follow links place rest spot := by
  induction leads with
  | arrived => exact .arrived
  | folder here _ ih => exact .folder (same.folder here) (ih ends)
  | stay here _ ih => exact .stay (same.folder here) (ih ends)
  | up here _ ih => exact .up (same.folder here) (ih ends)
  | free => cases ends
  | last here fits there stays => exact .last (same.folder here) fits (same.link there) stays
  | link here fits there follows _ ih =>
    exact .link (same.folder here) fits (same.link there) follows (ih ends)
  | @enter _ _ _ _ node _ here fits there noLink on ih =>
    cases node with
    | link target => exact absurd rfl (noLink target)
    | folder closed => exact .enter (same.folder here) fits (same.folder there) noLink (ih ends)
    | file content access =>
      -- The walk ends at the file, which is no passage.
      obtain rfl := on.at_file there
      subst ends
      cases on
      simp [passage?, there] at passes

end SameFolders

/-- Where links are followed at the end of a path there is a node too if they are not. -/
theorem Leads.unfollowed (leads : Leads files follow links place rest spot) {last : Place}
    (ends : spot = .node last) : ∃ last, Leads files false links place rest (.node last) := by
  induction leads with
  | arrived => exact ⟨_, .arrived⟩
  | folder here _ ih =>
    obtain ⟨last, leads⟩ := ih ends
    exact ⟨last, .folder here leads⟩
  | stay here _ ih =>
    obtain ⟨last, leads⟩ := ih ends
    exact ⟨last, .stay here leads⟩
  | up here _ ih =>
    obtain ⟨last, leads⟩ := ih ends
    exact ⟨last, .up here leads⟩
  | free => cases ends
  | last here fits there => exact ⟨_, .last here fits there rfl⟩
  | @link _ _ _ rest _ _ here fits there follows _ ih =>
    obtain ⟨last, leads⟩ := ih ends
    cases rest with
    | nil => exact ⟨_, .last here fits there rfl⟩
    | cons step rest => exact ⟨last, .link here fits there (.inl (List.cons_ne_nil step rest)) leads⟩
  | enter here fits there noLink _ ih =>
    obtain ⟨last, leads⟩ := ih ends
    exact ⟨last, .enter here fits there noLink leads⟩

theorem Leads.absent (leads : Leads files follow links place rest spot) {folder : Place} {name : Text}
    (ends : spot = .free folder name) : files.node? (folder ++ [name]) = none := by
  induction leads with
  | arrived => cases ends
  | free here fits absent =>
    cases ends
    exact absent
  | last => cases ends
  | folder _ _ ih | stay _ _ ih | up _ _ ih | link _ _ _ _ _ ih | enter _ _ _ _ _ ih => exact ih ends

section Paths

variable {path : Text}

theorem spot_iff : files.spot follow path = .ok spot ↔
    path.isEmpty = false ∧ ¬ byteSize path ≥ pathLimit ∧
      Leads files follow linkLimit (start path files.here) (steps path) spot := by
  unfold Files.spot
  split
  next empty => simp [empty]
  next filled =>
    split
    next long => simp [long]
    next fits =>
      refine ⟨fun led => ⟨Bool.eq_false_iff.mpr filled, fits, leads_of_walk led⟩, fun leads => ?_⟩
      exact walk_of_leads leads.2.2

theorem find_iff {node : Node} : files.find path = .ok (place, node) ↔
    files.spot true path = .ok (.node place) ∧ files.node? place = some node := by
  constructor
  · intro found
    unfold Files.find at found
    cases led : files.spot true path with
    | error problem =>
      rw [led] at found
      cases found
    | ok spot =>
      rw [led] at found
      cases spot with
      | free folder name => cases found
      | node last =>
        dsimp only [bind, Except.bind] at found
        cases there : files.node? last with
        | none =>
          rw [there] at found
          cases found
        | some other =>
          rw [there] at found
          cases found
          exact ⟨rfl, there⟩
  · intro found
    obtain ⟨led, there⟩ := found
    rw [Files.find, led]
    dsimp only [bind, Except.bind]
    rw [there]
    rfl

theorem find_root (files : Files) : files.find "/" = .ok ([], .folder false) := rfl

/-- A path that starts at the same place leads to the same in whatever folder the process is. -/
theorem find_moved {here : Place} (starts : start path here = start path files.here) :
    Files.find { files with here } path = files.find path := by
  have spot : Files.spot { files with here } true path = files.spot true path := by
    rw [Files.spot, Files.spot, walk_moved, starts]
  rw [Files.find, Files.find, spot]
  rfl

/-- A path to a folder leads there in files with the same folders, if it starts at the same place. -/
theorem SameFolders.find (same : SameFolders files other)
    (starts : start path files.here = start path other.here) {closed : Bool}
    (found : files.find path = .ok (place, .folder closed)) :
    other.find path = .ok (place, .folder closed) := by
  obtain ⟨led, here⟩ := find_iff.mp found
  obtain ⟨filled, fits, leads⟩ := spot_iff.mp led
  have passes : passage? files place ≠ none := by simp [passage?_folder.mpr here]
  refine find_iff.mpr ⟨spot_iff.mpr ⟨filled, fits, ?_⟩, same.folder here⟩
  rw [← starts]
  exact same.leads leads rfl passes

/-- Entering a folder works in both files, to the same place, or in neither. -/
theorem SameFolders.enter (same : SameFolders files other) (here : files.here = other.here) (path : Text) :
    (∃ place, files.enter path = .ok { files with here := place } ∧
      other.enter path = .ok { other with here := place }) ∨
    ∃ problem problem', files.enter path = .error problem ∧ other.enter path = .error problem' := by
  have entered {files : Files} : (∃ place, files.find path = .ok (place, .folder false) ∧
      files.enter path = .ok { files with here := place }) ∨ ∃ problem, files.enter path = .error problem ∧
        ∀ place, files.find path ≠ .ok (place, .folder false) := by
    unfold Files.enter
    cases found : files.find path with
    | error problem => exact .inr ⟨problem, rfl, nofun⟩
    | ok pair =>
      obtain ⟨place, node⟩ := pair
      cases node with
      | folder closed =>
        cases closed with
        | false => exact .inl ⟨place, rfl, rfl⟩
        | true => exact .inr ⟨.denied, rfl, nofun⟩
      | file => exact .inr ⟨.notDirectory, rfl, nofun⟩
      | link => exact .inr ⟨.notDirectory, rfl, nofun⟩
  have starts : start path files.here = start path other.here := by rw [here]
  obtain ⟨place, found, first⟩ | ⟨problem, first, missing⟩ := @entered files
  · obtain ⟨place', found', second⟩ | ⟨problem, second, missing⟩ := @entered other
    · have again := same.find starts found
      rw [found'] at again
      cases again
      exact .inl ⟨place, first, second⟩
    · exact absurd (same.find starts found) (missing place)
  · obtain ⟨place', found', second⟩ | ⟨problem', second, missing'⟩ := @entered other
    · exact absurd (same.symm.find starts.symm found') (missing place')
    · exact .inr ⟨problem, problem', first, second⟩

private theorem ensureFolder_of_find {closed : Bool} (found : files.find path = .ok (place, .folder closed)) :
    files.ensureFolder path = .ok files := by
  obtain ⟨led, here⟩ := find_iff.mp found
  obtain ⟨filled, fits, leads⟩ := spot_iff.mp led
  obtain ⟨last, unfollowed⟩ := leads.unfollowed rfl
  have taken : files.makeFolder path = .error .exists := by
    rw [Files.makeFolder, spot_iff.mpr ⟨filled, fits, unfollowed⟩]
    rfl
  have folder : files.folderAt path = .ok true := by rw [Files.folderAt, found]
  rw [Files.ensureFolder, taken]
  dsimp only
  rw [folder]
  rfl

theorem ensureFolders_of_find {path : Path} {closed : Bool}
    (found : files.find path.text = .ok (place, .folder closed)) :
    files.ensureFolders path.root path.parts.reverse = (files, .ok ()) := by
  have made := ensureFolder_of_find found
  cases parts : path.parts.reverse with
  | nil =>
    have whole : path = ⟨path.root, []⟩ := by
      rw [← List.reverse_eq_nil_iff.mp parts]
    rw [whole] at made
    rw [Files.ensureFolders, made]
  | cons name above =>
    have whole : path = ⟨path.root, (name :: above).reverse⟩ := by
      rw [← parts, List.reverse_reverse]
    rw [whole] at made
    rw [Files.ensureFolders, made]

private theorem find?_replaced (nodes : List (Place × Node)) (place asked : Place) (node : Node) :
    ((nodes.map fun entry => if entry.1 = place then (place, node) else entry).find?
      (·.1 = asked)).map (·.2) =
      if asked = place then (nodes.find? (·.1 = place)).map fun _ => node
      else (nodes.find? (·.1 = asked)).map (·.2) := by
  induction nodes with
  | nil => simp
  | cons entry rest ih =>
    by_cases here : entry.1 = place
    · by_cases same : asked = place
      · simp [here, same]
      · simp [here, same, Ne.symm same] at ih ⊢
        exact ih
    · by_cases same : asked = place
      · simp [here, same] at ih ⊢
        exact ih
      · by_cases found : entry.1 = asked
        · simp [found, same]
        · simp [here, same, found] at ih ⊢
          exact ih

theorem node?_put (filled : place ≠ []) (node : Node) (asked : Place) :
    (files.put place node).node? asked =
      if asked = place then some node else files.node? asked := by
  unfold Files.node? Files.put
  by_cases root : asked = []
  · have other : asked ≠ place := by
      rintro rfl
      exact filled root
    simp [root, filled.symm]
  · rw [if_neg root, if_neg root]
    split
    next there =>
      rw [find?_replaced]
      obtain ⟨entry, inside, here⟩ := List.any_eq_true.mp there
      cases found : files.nodes.find? (·.1 = place) with
      | none => exact absurd here (List.find?_eq_none.mp found entry inside)
      | some first => rfl
    next missing =>
      have absent : files.nodes.find? (·.1 = place) = none :=
        List.find?_eq_none.mpr fun entry inside here =>
          missing (List.any_eq_true.mpr ⟨entry, inside, here⟩)
      rw [List.find?_append]
      by_cases same : asked = place
      · simp [same, absent]
      · simp [same, Ne.symm same]

theorem SameFolders.put (filled : place ≠ []) (nothing : passage? files place = none) (content : Bytes)
    (access : Access) : SameFolders files (files.put place (.file content access)) := by
  intro asked
  by_cases here : asked = place
  · subst here
    rw [nothing, passage?, node?_put filled, if_pos rfl]
  · rw [passage?, passage?, node?_put filled, if_neg here]

theorem put_here (files : Files) (place : Place) (node : Node) :
    (files.put place node).here = files.here := by
  unfold Files.put
  split
  · rfl
  · rfl

theorem change_cases {edit : Bytes → Bytes} {after : Files} (written : files.change path edit = .ok after) :
    (∃ folder name, files.spot true path = .ok (.free folder name) ∧
      after = files.put (folder ++ [name]) (.file (edit []) .plain)) ∨
    ∃ place content access, files.find path = .ok (place, .file content access) ∧ access ≠ .closed ∧
      after = files.put place (.file (edit content) access) := by
  unfold Files.change at written
  cases led : files.spot true path with
  | error problem =>
    rw [led] at written
    cases written
  | ok spot =>
    rw [led] at written
    cases spot with
    | free folder name =>
      cases written
      exact .inl ⟨folder, name, rfl, rfl⟩
    | node place =>
      dsimp only [bind, Except.bind] at written
      cases there : files.node? place with
      | none =>
        rw [there] at written
        cases written
      | some node =>
        rw [there] at written
        cases node with
        | folder | link => cases written
        | file content access =>
          cases access with
          | closed => cases written
          | plain | program =>
            cases written
            exact .inr ⟨place, content, _, find_iff.mpr ⟨led, there⟩, nofun, rfl⟩

/-- A change of a file puts a file where nothing was, or another content where a file was. -/
theorem change_put {edit : Bytes → Bytes} {after : Files} (written : files.change path edit = .ok after) :
    (∃ folder name, files.node? (folder ++ [name]) = none ∧
      after = files.put (folder ++ [name]) (.file (edit []) .plain)) ∨
    ∃ place content access, files.node? place = some (.file content access) ∧
      after = files.put place (.file (edit content) access) := by
  obtain ⟨folder, name, led, rfl⟩ | ⟨place, content, access, found, -, rfl⟩ := change_cases written
  · obtain ⟨-, -, leads⟩ := spot_iff.mp led
    exact .inl ⟨folder, name, leads.absent rfl, rfl⟩
  · obtain ⟨-, there⟩ := find_iff.mp found
    exact .inr ⟨place, content, access, there, rfl⟩

theorem filled_of_file {content : Bytes} {access : Access}
    (there : files.node? place = some (.file content access)) : place ≠ [] := by
  rintro rfl
  cases there

/-- Writing into a file makes no folder. -/
theorem SameFolders.change {edit : Bytes → Bytes} {after : Files}
    (written : files.change path edit = .ok after) :
    SameFolders files after ∧ after.here = files.here := by
  rcases change_put written with ⟨folder, name, absent, rfl⟩ | ⟨place, content, access, there, rfl⟩
  · refine ⟨.put (by simp) ?_ _ _, put_here _ _ _⟩
    rw [passage?, absent]
  · refine ⟨.put (filled_of_file there) ?_ _ _, put_here _ _ _⟩
    rw [passage?, there]

end Paths

end CommandShell.Proofs.FolderWalks
