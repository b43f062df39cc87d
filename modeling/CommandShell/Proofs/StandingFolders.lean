import CommandShell.Proofs.FileWrites
import CommandShell.Proofs.HomePaths

/-! Places where there is a folder with folders on the way to it. A walk from one to a folder ends at one,
and the text of one leads to it. -/

namespace CommandShell.Proofs.StandingFolders
open Files FileWrites FolderWalks

structure Name (name : Text) : Prop where
  filled : name ≠ []
  noDot : name ≠ ['.']
  noDots : name ≠ ['.', '.']
  single : '/' ∉ name

/-- There is a folder at a place, and at each place on the way to it. -/
structure Standing (files : Files) (place : Place) : Prop where
  names : ∀ name ∈ place, Name name
  folders : ∀ front, front <+: place → ∃ closed, files.node? front = some (.folder closed)

variable {files other : Files} {place front : Place}

theorem Standing.root (files : Files) : Standing files [] where
  names := nofun
  folders front before := by
    obtain rfl := List.prefix_nil.mp before
    exact ⟨false, rfl⟩

theorem Standing.above (standing : Standing files place) (before : front <+: place) :
    Standing files front where
  names name inside := standing.names name (before.subset inside)
  folders first earlier := standing.folders first (earlier.trans before)

theorem Standing.child (standing : Standing files place) {name : Text} (named : Name name) {closed : Bool}
    (there : files.node? (place ++ [name]) = some (.folder closed)) : Standing files (place ++ [name]) where
  names other inside := by
    rcases List.mem_append.mp inside with above | last
    · exact standing.names other above
    · obtain rfl := List.mem_singleton.mp last
      exact named
  folders front before := by
    rcases List.prefix_concat_iff.mp before with rfl | above
    · exact ⟨closed, there⟩
    · exact standing.folders front above

theorem Standing.kept (standing : Standing files place) (kept : Kept files other) : Standing other place where
  names := standing.names
  folders front before := by
    obtain ⟨closed, there⟩ := standing.folders front before
    exact ⟨closed, kept.folder there⟩

def Named (steps : List Step) : Prop := ∀ name, .name name ∈ steps → Name name

private theorem named_steps (path : Text) : Named (steps path) := by
  intro name inside
  have walked : Step.name name ∈ ((Text.splitOn '/' path).filter (!·.isEmpty)).map fun part =>
      if part = ['.'] then Step.stay else if part = ['.', '.'] then Step.up else Step.name part := by
    unfold steps at inside
    dsimp only at inside
    split at inside
    next =>
      rcases List.mem_append.mp inside with walked | last
      · exact walked
      · cases List.mem_singleton.mp last
    next => exact inside
  obtain ⟨part, kept, same⟩ := List.mem_map.mp walked
  obtain ⟨piece, filled⟩ := List.mem_filter.mp kept
  split at same
  next => cases same
  next noDot =>
    split at same
    next => cases same
    next noDots =>
      cases same
      exact ⟨by simpa using filled, noDot, noDots, TextLines.notMem_splitOn piece⟩

theorem Standing.start (standing : Standing files place) (path : Text) : Standing files (start path place) := by
  unfold Files.start
  split
  · exact .root files
  · exact standing

theorem Named.tail {step : Step} {rest : List Step} (named : Named (step :: rest)) : Named rest :=
  fun name inside => named name (List.mem_cons_of_mem _ inside)

theorem Named.behind {rest : List Step} (named : Named rest) (path : Text) : Named (steps path ++ rest) := by
  intro name inside
  rcases List.mem_append.mp inside with first | later
  · exact named_steps path name first
  · exact named name later

theorem Standing.leads {follow : Bool} {links : Nat} {rest : List Step} {spot : Spot}
    (standing : Standing files place) (named : Named rest) (leads : Leads files follow links place rest spot)
    {last : Place} (ends : spot = .node last) {closed : Bool}
    (there : files.node? last = some (.folder closed)) : Standing files last := by
  induction leads with
  | arrived =>
    cases ends
    exact standing
  | folder _ _ ih | stay _ _ ih => exact ih standing named.tail ends
  | up _ _ ih => exact ih (standing.above (List.dropLast_prefix _)) named.tail ends
  | free => cases ends
  | last _ _ link =>
    cases ends
    cases there.symm.trans link
  | link _ _ _ _ _ ih => exact ih (standing.start _) (named.tail.behind _) ends
  | @enter _ _ _ _ node _ _ _ found noLink on ih =>
    cases node with
    | link target => exact absurd rfl (noLink target)
    | folder closed => exact ih (standing.child (named _ List.mem_cons_self) found) named.tail ends
    | file content access =>
      -- The walk ends at the file, which is no folder.
      obtain rfl := on.at_file found
      subst ends
      cases on
      cases there.symm.trans found

theorem enter_found {path : Text} (enters : files.enter path = .ok other) :
    ∃ place, files.find path = .ok (place, .folder false) ∧ other = { files with here := place } := by
  unfold Files.enter at enters
  cases found : files.find path with
  | error problem =>
    rw [found] at enters
    cases enters
  | ok pair =>
    obtain ⟨place, node⟩ := pair
    rw [found] at enters
    cases node with
    | folder closed =>
      cases closed with
      | false =>
        cases enters
        exact ⟨place, rfl, rfl⟩
      | true => cases enters
    | file | link => cases enters

/-- Whatever path leads from a standing folder to another one, that one stands too. -/
theorem Standing.enter (standing : Standing files files.here) {path : Text}
    (enters : files.enter path = .ok other) : Standing other other.here := by
  obtain ⟨place, found, rfl⟩ := enter_found enters
  obtain ⟨led, there⟩ := find_iff.mp found
  obtain ⟨-, -, leads⟩ := spot_iff.mp led
  have stands := (standing.start path).leads (named_steps path) leads rfl there
  exact ⟨stands.names, stands.folders⟩

private theorem splitOn_placeText (names : ∀ name ∈ place, Name name) (filled : place ≠ []) :
    Text.splitOn '/' (placeText place) = [] :: place := by
  have joined : List.splitOn '/' (List.intercalate ['/'] place) = place :=
    List.splitOn_intercalate '/' (fun name inside => (names name inside).single) filled
  exact (List.splitOn_append_cons_self [] _).trans (congrArg ([] :: ·) joined)

private theorem placeText_open (names : ∀ name ∈ place, Name name) (filled : place ≠ []) :
    (placeText place).getLast? ≠ some '/' := by
  intro ends
  obtain ⟨front, whole⟩ := List.getLast?_eq_some_iff.mp ends
  have pieces := splitOn_placeText names filled
  rw [whole, Text.splitOn, List.splitOn_append_cons_self, List.splitOn_nil] at pieces
  -- The last piece is empty, but it is a name.
  have last := congrArg List.getLast? pieces
  rw [List.getLast?_concat, List.getLast?_cons_of_ne_nil filled] at last
  exact (names [] (List.mem_of_getLast? last.symm)).filled rfl

private theorem steps_placeText (names : ∀ name ∈ place, Name name) :
    steps (placeText place) = place.map .name := by
  by_cases filled : place = []
  · subst filled
    rfl
  · have parts : (Text.splitOn '/' (placeText place)).filter (!·.isEmpty) = place := by
      rw [splitOn_placeText names filled, List.filter_cons_of_neg (by simp), List.filter_eq_self]
      intro name inside
      simpa using (names name inside).filled
    rw [steps, parts]
    simp only [placeText_open names filled, decide_false, Bool.false_and, Bool.false_eq_true, if_false]
    refine List.map_congr_left fun name inside => ?_
    rw [if_neg (names name inside).noDot, if_neg (names name inside).noDots]

private theorem leads_names {follow : Bool} {links : Nat} {rest : Place} {spot : Spot}
    (standing : Standing files (place ++ rest))
    (leads : Leads files follow links place (rest.map .name) spot) : spot = .node (place ++ rest) := by
  induction rest generalizing place with
  | nil =>
    cases leads
    rw [List.append_nil]
  | cons name rest ih =>
    have on : place ++ name :: rest = place ++ [name] ++ rest := by simp
    rw [on] at standing ⊢
    obtain ⟨closed, there⟩ := standing.folders (place ++ [name]) (List.prefix_append _ _)
    rw [List.map_cons] at leads
    generalize mapped : rest.map Step.name = later at leads
    cases leads with
    | free _ _ absent => cases there.symm.trans absent
    | last _ _ link | link _ _ link => cases there.symm.trans link
    | enter _ _ _ _ leads => exact ih standing (mapped ▸ leads)

theorem Standing.enter_text (standing : Standing files place) (enters : files.enter (placeText place) = .ok other) :
    other = { files with here := place } := by
  obtain ⟨last, found, rfl⟩ := enter_found enters
  obtain ⟨led, -⟩ := find_iff.mp found
  obtain ⟨-, -, leads⟩ := spot_iff.mp led
  rw [steps_placeText standing.names] at leads
  have there : Spot.node last = .node ([] ++ place) := leads_names standing leads
  cases there
  rfl

end CommandShell.Proofs.StandingFolders
