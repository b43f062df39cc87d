import CommandShell.Completion.Engine

/-! What each source of candidates offers for a word: only values that start with the word, and for a
word that goes on with more, those of them that start with the longer word. -/

namespace CommandShell.Proofs.CandidateSources
open Completion

def starting (front : Text) (candidates : List Candidate) : List Candidate :=
  candidates.filter fun candidate => front.isPrefixOf candidate.value

theorem starting_append (front : Text) (first second : List Candidate) :
    starting front (first ++ second) = starting front first ++ starting front second :=
  List.filter_append ..

def Extend (front : Text) (candidates : List Candidate) : Prop :=
  ∀ candidate ∈ candidates, front <+: candidate.value

theorem Extend.append {front : Text} {first second : List Candidate} (one : Extend front first)
    (other : Extend front second) : Extend front (first ++ second) :=
  List.forall_mem_append.mpr ⟨one, other⟩

theorem extend_starting (front : Text) (candidates : List Candidate) :
    Extend front (starting front candidates) :=
  fun _ kept => List.isPrefixOf_iff_prefix.mp (List.mem_filter.mp kept).2

theorem isPrefixOf_longer {front longer : Text} (goes : front <+: longer) (text : Text) :
    (longer.isPrefixOf text && front.isPrefixOf text) = longer.isPrefixOf text := by
  rw [Bool.and_eq_left_iff_imp]
  simp only [List.isPrefixOf_iff_prefix]
  exact goes.trans

private theorem filter_longer {front longer : Text} (goes : front <+: longer) (names : List Text) :
    (names.filter front.isPrefixOf).filter longer.isPrefixOf = names.filter longer.isPrefixOf := by
  rw [List.filter_filter]
  exact List.filter_congr fun name _ => isPrefixOf_longer goes name

section Folders

variable {files : Files} {folder : Path} {front lead : Text}

private theorem value_entryCandidate (files : Files) (folder lead : Text) (entry : Text × Node) :
    (entryCandidate files folder lead entry).value = lead ++ entry.1 ∨
      (entryCandidate files folder lead entry).value = lead ++ entry.1 ++ ['/'] := by
  unfold entryCandidate
  split
  · exact .inr rfl
  · exact .inl rfl

/-- The slash behind a folder has no part in how its name starts. -/
theorem isPrefixOf_value {c : Char} (other : c ≠ '/') (folder : Text) (entry : Text × Node) :
    (lead ++ front ++ [c]).isPrefixOf (entryCandidate files folder lead entry).value =
      (front ++ [c]).isPrefixOf entry.1 := by
  rw [Bool.eq_iff_iff, List.isPrefixOf_iff_prefix, List.isPrefixOf_iff_prefix, List.append_assoc]
  obtain value | value := value_entryCandidate files folder lead entry
  · rw [value, List.prefix_append_right_inj]
  · rw [value, List.append_assoc, List.prefix_append_right_inj, List.prefix_concat_iff, or_iff_right]
    intro same
    exact other (List.singleton_inj.mp (List.append_inj' same rfl).2)

/-- Whether a name is offered for the front of a name: hidden ones only for a front with a dot. -/
def fits (front name : Text) : Bool :=
  (name.head? ≠ some '.' || front.head? = some '.') && front.isPrefixOf name

private theorem fits_longer (filled : front ≠ []) (c : Char) (name : Text) :
    fits (front ++ [c]) name = ((front ++ [c]).isPrefixOf name && fits front name) := by
  have first : (front ++ [c]).head? = front.head? := by
    obtain ⟨head, rest, rfl⟩ := List.exists_cons_of_ne_nil filled
    rfl
  unfold fits
  rw [first, Bool.and_left_comm, isPrefixOf_longer (List.prefix_append front [c])]

theorem inFolder_eq (files : Files) (folder : Path) (front lead : Text) :
    inFolder files folder front lead = (files.listed folder.text).map fun entries =>
      (entries.filter fun entry => fits front entry.1).map (entryCandidate files folder.text lead) := by
  unfold inFolder
  cases files.listed folder.text <;> rfl

private theorem inFolder_extend {found : List Candidate}
    (offered : inFolder files folder front lead = .ok found) :
    Extend (lead ++ front) found := by
  rw [inFolder_eq] at offered
  cases listed : files.listed folder.text with
  | error fault =>
    rw [listed] at offered
    cases offered
  | ok entries =>
    rw [listed] at offered
    obtain rfl := Except.ok.inj offered
    intro candidate inside
    obtain ⟨entry, kept, rfl⟩ := List.mem_map.mp inside
    have starts := (Bool.and_eq_true_iff.mp (List.mem_filter.mp kept).2).2
    have named : lead ++ front <+: lead ++ entry.1 :=
      (List.prefix_append_right_inj lead).mpr (List.isPrefixOf_iff_prefix.mp starts)
    obtain value | value := value_entryCandidate files folder.text lead entry
    · rwa [value]
    · rw [value]
      exact named.trans (List.prefix_append _ _)

private theorem inFolder_typed (filled : front ≠ []) {c : Char} (other : c ≠ '/') :
    inFolder files folder (front ++ [c]) lead =
      (inFolder files folder front lead).map (starting (lead ++ front ++ [c])) := by
  rw [inFolder_eq, inFolder_eq]
  cases files.listed folder.text with
  | error fault => rfl
  | ok entries =>
    refine congrArg Except.ok ?_
    rw [starting, List.filter_map, List.filter_filter]
    refine congrArg (List.map _) (List.filter_congr fun entry _ => ?_)
    rw [Function.comp_apply, isPrefixOf_value other, fits_longer filled]

end Folders

section Paths

variable {files : Files} {word current : Text} {home : Option Text}

private theorem cutAtSlash_append (word : Text) : (cutAtSlash word).1 ++ (cutAtSlash word).2 = word := by
  unfold cutAtSlash
  rw [← List.reverse_append, List.takeWhile_append_dropWhile, List.reverse_reverse]

private theorem cutAtSlash_typed (word : Text) {c : Char} (other : c ≠ '/') :
    cutAtSlash (word ++ [c]) = ((cutAtSlash word).1, (cutAtSlash word).2 ++ [c]) := by
  simp only [cutAtSlash, List.reverse_concat, List.dropWhile_cons, List.takeWhile_cons, other, ne_eq,
    not_false_eq_true, decide_true, if_true, List.reverse_cons]

/-- The folder in which a word is looked up, by the word up to its last slash. -/
def lookedIn (lead current : Text) (home : Option Text) : Path :=
  if lead = [] then Path.ofText current else folderOf lead current home

theorem paths_eq (files : Files) (word current : Text) (home : Option Text) :
    paths files word current home =
      inFolder files (lookedIn (cutAtSlash word).1 current home) (cutAtSlash word).2
        (cutAtSlash word).1 := by
  unfold paths lookedIn
  generalize cutAtSlash word = cut
  obtain ⟨lead, front⟩ := cut
  cases lead <;> rfl

/-- In the root a word without a slash is looked up among the entries of the root. -/
theorem paths_root (bare : cutAtSlash word = ([], word)) (home : Option Text) {entries : List (Text × Node)}
    (there : files.entries [] = entries) :
    paths files word "/" home =
      .ok ((entries.filter fun entry => fits word entry.1).map (entryCandidate files "/" [])) := by
  rw [paths_eq, inFolder_eq, bare, ← there]
  rfl

theorem paths_extend {found : List Candidate} (offered : paths files word current home = .ok found) :
    Extend word found := by
  rw [paths_eq] at offered
  have extend := inFolder_extend offered
  rwa [cutAtSlash_append] at extend

theorem paths_typed (filled : (cutAtSlash word).2 ≠ []) {c : Char} (other : c ≠ '/') :
    paths files (word ++ [c]) current home =
      (paths files word current home).map (starting (word ++ [c])) := by
  rw [paths_eq, paths_eq, cutAtSlash_typed word other, inFolder_typed filled other, cutAtSlash_append]

end Paths

section Commands

variable {files : Files} {word longer : Text} {environment : Environment}

theorem filter_eraseDups (keeps : Text → Bool) (names : List Text) :
    names.eraseDups.filter keeps = (names.filter keeps).eraseDups := by
  induction size : names.length using Nat.strongRecOn generalizing names with
  | ind count ih =>
    cases names with
    | nil => rfl
    | cons name rest =>
      have shorter : (rest.filter fun other => !other == name).length < count :=
        size ▸ Nat.lt_succ_of_le (List.length_filter_le _ rest)
      rw [List.eraseDups_cons, List.filter_cons, List.filter_cons, ih _ shorter _ rfl]
      by_cases kept : keeps name
      · rw [if_pos kept, if_pos kept, List.eraseDups_cons, List.filter_filter, List.filter_filter]
        simp only [Bool.and_comm]
      · rw [if_neg kept, if_neg kept, List.filter_filter]
        refine congrArg List.eraseDups (List.filter_congr fun other _ => ?_)
        rw [Bool.and_eq_left_iff_imp]
        intro keepsOther
        simpa using fun same : other = name => kept (same ▸ keepsOther)

private theorem programsIn_longer (goes : word <+: longer) (folder : Text) :
    files.programsIn longer folder =
      (files.programsIn word folder).map (List.filter longer.isPrefixOf) := by
  unfold Files.programsIn
  cases files.listed folder with
  | error fault => rfl
  | ok entries =>
    refine congrArg Except.ok ?_
    rw [List.filter_filterMap]
    refine congrArg (fun chosen => List.filterMap chosen entries) (funext fun entry => ?_)
    have starts := isPrefixOf_longer goes entry.1
    dsimp only
    rw [← starts]
    cases files.entryIsProgram folder entry.1 entry.2 <;> cases word.isPrefixOf entry.1 <;>
      simp [Option.filter]

private theorem programs_longer (goes : word <+: longer) (folders : List Text) :
    files.programs longer folders =
      (files.programs word folders).map (List.filter longer.isPrefixOf) := by
  have found : folders.mapM (files.programsIn longer) =
      (folders.mapM (files.programsIn word)).map (List.map (List.filter longer.isPrefixOf)) := by
    induction folders with
    | nil => rfl
    | cons folder rest ih =>
      rw [List.mapM_cons, List.mapM_cons, programsIn_longer goes, ih]
      cases files.programsIn word folder with
      | error fault => rfl
      | ok here => cases rest.mapM (files.programsIn word) <;> rfl
  unfold Files.programs
  rw [found]
  cases folders.mapM (files.programsIn word) with
  | error fault => rfl
  | ok names =>
    refine congrArg Except.ok ?_
    rw [filter_eraseDups, List.filter_flatten]

def named (description name : Text) : Candidate := ⟨name, name, some description⟩

private theorem starting_named (front description : Text) (names : List Text) :
    starting front (names.map (named description)) =
      (names.filter front.isPrefixOf).map (named description) :=
  List.filter_map

private theorem contains_filter (names : List Text) (keeps : Text → Bool) (name : Text) :
    (names.filter keeps).contains name = (names.contains name && keeps name) := by
  rw [Bool.eq_iff_iff]
  simp

theorem commands_longer (goes : word <+: longer) :
    commands files longer environment = (commands files word environment).map (starting longer) := by
  unfold commands
  rw [programs_longer goes]
  cases files.programs word environment.searchPath with
  | error fault => rfl
  | ok programs =>
    refine congrArg Except.ok ?_
    change List.map (named "Builtin") _ ++ List.map (named "Command") _ =
      starting longer (List.map (named "Builtin") _ ++ List.map (named "Command") _)
    rw [starting_append, starting_named, starting_named, filter_longer goes, List.filter_filter,
      List.filter_filter]
    refine congrArg (List.append _) (congrArg _ (List.filter_congr fun name _ => ?_))
    rw [contains_filter, contains_filter, ← isPrefixOf_longer goes name]
    cases longer.isPrefixOf name <;> cases word.isPrefixOf name <;> simp

end Commands

section Flags

variable {word longer : Text}

/-- The first of pairs with one name is kept. -/
def first (seen : Table Text) (pair : Text × Text) : Table Text :=
  if seen.has pair.1 then seen else seen ++ [pair]

private theorem has_filter (keeps : Text → Bool) (table : Table Text) (name : Text) :
    Table.has (table.filter fun pair => keeps pair.1) name = (keeps name && table.has name) := by
  induction table with
  | nil => exact (Bool.and_false _).symm
  | cons pair rest ih =>
    unfold Table.has at ih ⊢
    by_cases kept : keeps pair.1 <;> by_cases same : pair.1 = name <;>
      simp_all [Table.get?]

private theorem filter_first (keeps : Text → Bool) (pairs : List (Text × Text)) (seen : Table Text) :
    (pairs.foldl first seen).filter (fun pair => keeps pair.1) =
      (pairs.filter fun pair => keeps pair.1).foldl first (seen.filter fun pair => keeps pair.1) := by
  induction pairs generalizing seen with
  | nil => rfl
  | cons pair rest ih =>
    rw [List.foldl_cons, ih, List.filter_cons]
    by_cases kept : keeps pair.1
    · rw [if_pos kept, List.foldl_cons, first, first, has_filter, kept, Bool.true_and]
      split
      next => rfl
      next => rw [List.filter_append, List.filter_cons, if_pos kept, List.filter_nil]
    · rw [if_neg kept, first]
      split
      next => rfl
      next => rw [List.filter_append, List.filter_cons, if_neg kept, List.filter_nil, List.append_nil]

private theorem flagsOfRows_eq (rows : List FlagRow) (word : Text) :
    flagsOfRows rows word =
      (((rows.flatMap flagsOfRow).filter fun pair => word.isPrefixOf pair.1).foldl first []).map
        fun pair => ⟨pair.1, pair.1, some pair.2⟩ := rfl

theorem flagsOfRows_longer (goes : word <+: longer) (rows : List FlagRow) :
    flagsOfRows rows longer = starting longer (flagsOfRows rows word) := by
  rw [flagsOfRows_eq, flagsOfRows_eq, starting, List.filter_map]
  have kept := filter_first longer.isPrefixOf
    ((rows.flatMap flagsOfRow).filter fun pair => word.isPrefixOf pair.1) []
  refine congrArg (List.map _) (Eq.trans ?_ kept.symm)
  rw [List.filter_filter]
  refine congrArg (List.foldl first []) (List.filter_congr fun pair _ => ?_)
  exact (isPrefixOf_longer goes pair.1).symm

end Flags

end CommandShell.Proofs.CandidateSources
