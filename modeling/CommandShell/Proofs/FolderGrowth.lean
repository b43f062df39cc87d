import CommandShell.Proofs.CandidateSources
import CommandShell.Proofs.FileWrites
import Mathlib.Data.List.Basic

/-! Files that only grow: where something was there still is the same, and only files have another
content. Each candidate for a path is still offered. -/

namespace CommandShell.Proofs.FolderGrowth
open ActSteps CandidateSources Completion Files FileWrites FolderWalks

/-- The same node, or both are files that may be used alike. -/
inductive SameKind : Node → Node → Prop
  | same (node : Node) : SameKind node node
  | file (content content' : Bytes) (access : Access) :
    SameKind (.file content access) (.file content' access)

theorem SameKind.trans {first second third : Node} (one : SameKind first second)
    (other : SameKind second third) : SameKind first third := by
  cases one with
  | same => exact other
  | file content content' access =>
    cases other with
    | same => exact .file content content' access
    | file _ last => exact .file content last access

/-- The process is in the same folder, and what was at a place is still there. -/
structure Grows (files other : Files) : Prop where
  here : other.here = files.here
  nodes : ∀ place node, files.node? place = some node →
    ∃ node', other.node? place = some node' ∧ SameKind node node'

variable {files other made : Files} {place : Place} {node : Node} {path : Text}

instance : Lasting Grows where
  refl files := ⟨rfl, fun _ node there => ⟨node, there, .same node⟩⟩
  trans first second := by
    refine ⟨second.here.trans first.here, ?_⟩
    intro place node there
    obtain ⟨node', there', same⟩ := first.nodes place node there
    obtain ⟨last, there'', same'⟩ := second.nodes place node' there'
    exact ⟨last, there'', same.trans same'⟩

theorem Grows.kept (grows : Grows files other) : Kept files other := by
  intro place node passes
  obtain ⟨there, noFile⟩ := passage?_eq_some.mp passes
  obtain ⟨node', there', same⟩ := grows.nodes place node there
  cases same with
  | same => exact there'
  | file content _ access => exact absurd rfl (noFile content access)

private theorem grows_put (filled : place ≠ [])
    (alike : ∀ old, files.node? place = some old → SameKind old node) :
    Grows files (files.put place node) := by
  refine ⟨put_here _ _ _, ?_⟩
  intro asked old there
  rw [node?_put filled]
  split
  next same =>
    subst same
    exact ⟨node, rfl, alike old there⟩
  next => exact ⟨old, there, .same old⟩

private theorem grows_absent {folder : Place} {name : Text} (absent : files.node? (folder ++ [name]) = none)
    (node : Node) : Grows files (files.put (folder ++ [name]) node) := by
  refine grows_put (by simp) ?_
  intro old there
  rw [absent] at there
  cases there

private theorem grows_makeFolder (makes : files.makeFolder path = .ok made) : Grows files made := by
  obtain ⟨folder, name, -, absent, rfl⟩ := makeFolder_put makes
  exact grows_absent absent _

theorem grows_change {edit : Bytes → Bytes} (written : files.change path edit = .ok made) :
    Grows files made := by
  rcases change_put written with ⟨folder, name, absent, rfl⟩ | ⟨place, content, access, there, rfl⟩
  · exact grows_absent absent _
  · refine grows_put (filled_of_file there) ?_
    intro old there'
    obtain rfl := Option.some.inj (there.symm.trans there')
    exact .file content _ access

theorem grows_ensureFolders (files : Files) (root : Text) (reversed : List Text) :
    Grows files (files.ensureFolders root reversed).1 :=
  ensureFolders_lasting grows_makeFolder files root reversed

section Listing

def Distinct (files : Files) : Prop := (files.nodes.map (·.1)).Nodup

theorem node?_of_mem (distinct : Distinct files) (filled : place ≠ [])
    (inside : (place, node) ∈ files.nodes) : files.node? place = some node := by
  obtain ⟨front, behind, whole⟩ := List.append_of_mem inside
  have missing : ∀ entry ∈ front, ¬ entry.1 = place := by
    intro entry earlier same
    rw [Distinct, whole, List.map_append] at distinct
    have apart := (List.nodup_append.mp distinct).2.2
    exact apart _ (List.mem_map_of_mem earlier) _ (List.mem_map_of_mem List.mem_cons_self) same
  rw [Files.node?, if_neg filled, whole, List.find?_append, List.find?_eq_none.mpr (by simpa using missing)]
  simp

private theorem mem_of_node? (filled : place ≠ []) (there : files.node? place = some node) :
    (place, node) ∈ files.nodes := by
  rw [Files.node?, if_neg filled] at there
  obtain ⟨⟨other, found⟩, first, rfl⟩ := Option.map_eq_some_iff.mp there
  have same := List.find?_some first
  have inside := List.mem_of_find?_eq_some first
  obtain rfl := of_decide_eq_true same
  exact inside

theorem mem_entries {name : Text} :
    (name, node) ∈ files.entries place ↔ (place ++ [name], node) ∈ files.nodes := by
  rw [Files.entries]
  dsimp only
  rw [List.mem_mergeSort, List.mem_filterMap]
  constructor
  · rintro ⟨⟨other, found⟩, inside, kept⟩
    dsimp only at kept
    split at kept
    next last ends =>
      split at kept
      next above =>
        cases kept
        rw [← above, List.dropLast_append_getLast? _ ends]
        exact inside
      next => cases kept
    next => cases kept
  · intro inside
    refine ⟨_, inside, ?_⟩
    simp

def asFolder (candidate : Candidate) : Candidate :=
  ⟨candidate.display ++ "/", candidate.value ++ "/", some "Directory"⟩

theorem find_folder (grows : Grows files other) {closed : Bool}
    (found : files.find path = .ok (place, .folder closed)) :
    other.find path = .ok (place, .folder closed) := by
  obtain ⟨led, there⟩ := find_iff.mp found
  exact find_of_spot grows.kept grows.here led (grows.kept.folder there) nofun

private theorem isFolder_grows (grows : Grows files other) (folder : files.isFolder path = true) :
    other.isFolder path = true := by
  unfold Files.isFolder at folder
  split at folder
  next place closed found => rw [Files.isFolder, find_folder grows found]
  next => cases folder

/-- A link may lead to a folder now. Nothing else of an entry changes. -/
theorem entryCandidate_grows (grows : Grows files other) {node' : Node} (same : SameKind node node')
    (folder lead name : Text) :
    entryCandidate other folder lead (name, node') = entryCandidate files folder lead (name, node) ∨
      entryCandidate other folder lead (name, node') =
        asFolder (entryCandidate files folder lead (name, node)) := by
  cases same with
  | file => exact .inl rfl
  | same =>
    cases node with
    | folder closed => exact .inl rfl
    | file content access => exact .inl rfl
    | link target =>
      unfold entryCandidate Files.entryIsFolder
      dsimp only
      by_cases before : files.isFolder (Path.join folder name) = true
      · rw [if_pos before, if_pos (isFolder_grows grows before)]
        exact .inl rfl
      · rw [if_neg before]
        split
        next => exact .inr rfl
        next => exact .inl rfl

theorem find_of_list {entries : List (Text × Node)} (listed : files.list path = .ok (place, entries)) :
    files.find path = .ok (place, .folder false) ∧ entries = files.entries place := by
  unfold Files.list at listed
  cases found : files.find path with
  | error problem =>
    rw [found] at listed
    cases listed
  | ok pair =>
    rw [found] at listed
    obtain ⟨folder, node⟩ := pair
    cases node with
    | file | link => cases listed
    | folder closed =>
      cases closed with
      | true => cases listed
      | false =>
        cases listed
        exact ⟨rfl, rfl⟩

private theorem list_grows (grows : Grows files other) {entries : List (Text × Node)}
    (listed : files.list path = .ok (place, entries)) :
    entries = files.entries place ∧ other.list path = .ok (place, other.entries place) := by
  obtain ⟨found, whole⟩ := find_of_list listed
  rw [Files.list, find_folder grows found]
  exact ⟨whole, rfl⟩

/-- Each entry of a folder is still listed. -/
theorem listed_grows (grows : Grows files other) (distinct : Distinct files) {entries : List (Text × Node)}
    (listed : files.listed path = .ok entries) : ∃ entries', other.listed path = .ok entries' ∧
      ∀ name node, (name, node) ∈ entries → ∃ node', (name, node') ∈ entries' ∧ SameKind node node' := by
  unfold Files.listed at listed ⊢
  split at listed
  next => cases listed
  next named =>
    rw [if_neg named]
    cases before : files.list path with
    | error problem =>
      rw [before] at listed
      cases listed
      split
      next => exact ⟨_, rfl, nofun⟩
      next => exact ⟨_, rfl, nofun⟩
    | ok pair =>
      rw [before] at listed
      cases listed
      obtain ⟨place, entries⟩ := pair
      obtain ⟨rfl, after⟩ := list_grows grows before
      rw [after]
      refine ⟨_, rfl, ?_⟩
      intro name node inside
      have there := node?_of_mem distinct (by simp) (mem_entries.mp inside)
      obtain ⟨node', there', same⟩ := grows.nodes _ _ there
      exact ⟨node', mem_entries.mpr (mem_of_node? (by simp) there'), same⟩

private theorem inFolder_grows (grows : Grows files other) (distinct : Distinct files) {folder : Path}
    {front lead : Text} {found : List Candidate} (before : inFolder files folder front lead = .ok found) :
    ∃ found', inFolder other folder front lead = .ok found' ∧
      ∀ candidate ∈ found, candidate ∈ found' ∨ asFolder candidate ∈ found' := by
  rw [inFolder_eq] at before ⊢
  cases listed : files.listed folder.text with
  | error fault =>
    rw [listed] at before
    cases before
  | ok entries =>
    rw [listed] at before
    cases before
    obtain ⟨entries', listed', inside'⟩ := listed_grows grows distinct listed
    rw [listed']
    refine ⟨_, rfl, ?_⟩
    intro candidate offered
    obtain ⟨⟨name, node⟩, kept, rfl⟩ := List.mem_map.mp offered
    obtain ⟨inside, fitting⟩ := List.mem_filter.mp kept
    obtain ⟨node', still, same⟩ := inside' name node inside
    have kept' : (name, node') ∈ entries'.filter fun entry => fits front entry.1 :=
      List.mem_filter.mpr ⟨still, fitting⟩
    have offered' := List.mem_map_of_mem (f := entryCandidate other folder.text lead) kept'
    rcases entryCandidate_grows grows same folder.text lead name with equal | equal
    · rw [equal] at offered'
      exact .inl offered'
    · rw [equal] at offered'
      exact .inr offered'

/-- A candidate for a path is still offered, as a folder where it has become one. -/
theorem paths_grow (grows : Grows files other) (distinct : Distinct files) {word current : Text}
    {home : Option Text} {found : List Candidate} (before : paths files word current home = .ok found) :
    ∃ found', paths other word current home = .ok found' ∧
      ∀ candidate ∈ found, candidate ∈ found' ∨ asFolder candidate ∈ found' := by
  rw [paths_eq] at before ⊢
  exact inFolder_grows grows distinct before

end Listing

end CommandShell.Proofs.FolderGrowth
