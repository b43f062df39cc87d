import CommandShell.Proofs.EntryPaths
import CommandShell.Proofs.FailedLookups

/-! The commands that are listed for a word: the builtins, then the programs in the folders of the search
path. A program stands where the first folder has it that holds one of its name. -/

namespace CommandShell.Proofs.ListedCommands
open CandidateSources Completion EntryPaths FailedLookups FolderGrowth

variable {files : Files} {word folder : Text} {folders names own rest : List Text}

def Precedes (first second : Text) : Prop := Text.ble first second = true ∧ first ≠ second

private theorem pairwise_eraseDups
    (sorted : names.Pairwise fun first second => Text.ble first second = true) :
    names.eraseDups.Pairwise Precedes := by
  induction size : names.length using Nat.strongRecOn generalizing names with
  | ind count ih =>
    cases names with
    | nil => exact .nil
    | cons name rest =>
      have shorter : (rest.filter fun other => !other == name).length < count :=
        size ▸ Nat.lt_succ_of_le (List.length_filter_le _ rest)
      obtain ⟨first, sorted⟩ := List.pairwise_cons.mp sorted
      rw [List.eraseDups_cons]
      refine List.pairwise_cons.mpr ⟨fun other inside => ?_, ih _ shorter (sorted.filter _) rfl⟩
      obtain ⟨inside, differs⟩ := List.mem_filter.mp (List.mem_eraseDups.mp inside)
      refine ⟨first other inside, ?_⟩
      rintro rfl
      simp at differs

/-- Of two names, the first is held by the first folder that holds any of them. If that folder holds the
other one too, they are in the order of names. -/
def Earlier (files : Files) (folders : List Text) (first second : Text) : Prop :=
  ∃ before folder after, folders = before ++ folder :: after ∧ Holds files folder first ∧
    (∀ missed ∈ before, ¬ Holds files missed first ∧ ¬ Holds files missed second) ∧
    (Holds files folder second → Precedes first second)

theorem Earlier.ne {first second : Text} (earlier : Earlier files folders first second) : first ≠ second := by
  rintro rfl
  obtain ⟨before, folder, after, -, holds, -, precedes⟩ := earlier
  exact (precedes holds).2 rfl

theorem Earlier.first {first second : Text} (holds : Holds files folder first)
    (precedes : Holds files folder second → Precedes first second) (folders : List Text) :
    Earlier files (folder :: folders) first second :=
  ⟨[], folder, folders, rfl, holds, nofun, precedes⟩

theorem Earlier.behind {first second : Text} (earlier : Earlier files folders first second)
    (missed : ¬ Holds files folder first ∧ ¬ Holds files folder second) :
    Earlier files (folder :: folders) first second := by
  obtain ⟨before, found, after, rfl, holds, others, precedes⟩ := earlier
  exact ⟨folder :: before, found, after, rfl, holds, List.forall_mem_cons.mpr ⟨missed, others⟩, precedes⟩

/-- The names that are listed for a word: all that start with it and that one of the folders holds. -/
structure Lists (files : Files) (word : Text) (folders names : List Text) : Prop where
  member : ∀ name, name ∈ names ↔ word <+: name ∧ ∃ folder ∈ folders, Holds files folder name
  order : names.Pairwise (Earlier files folders)

theorem Lists.cons (sorted : own.Pairwise fun first second => Text.ble first second = true)
    (member : ∀ name, name ∈ own ↔ word <+: name ∧ Holds files folder name)
    (lists : Lists files word folders rest.eraseDups) :
    Lists files word (folder :: folders) (own ++ rest).eraseDups where
  member name := by
    have others := lists.member name
    rw [List.mem_eraseDups] at others
    rw [List.mem_eraseDups, List.mem_append, member, others, List.exists_mem_cons_iff, and_or_left]
  order := by
    have behind : (rest.removeAll own).eraseDups = rest.eraseDups.filter fun name => !own.contains name :=
      (filter_eraseDups _ rest).symm
    have missed {name : Text} (inside : name ∈ (rest.removeAll own).eraseDups) :
        ¬ Holds files folder name := by
      rw [behind, List.mem_filter] at inside
      have starts := ((lists.member name).mp inside.1).1
      have absent : name ∉ own := by simpa using inside.2
      exact fun holds => absent ((member name).mpr ⟨starts, holds⟩)
    have held {name : Text} (inside : name ∈ own.eraseDups) : Holds files folder name :=
      ((member name).mp (List.mem_eraseDups.mp inside)).2
    rw [List.eraseDups_append, List.pairwise_append]
    refine ⟨?_, ?_, fun first inside second inside' => ?_⟩
    · refine (pairwise_eraseDups sorted).imp_of_mem fun inside _ precedes => ?_
      exact Earlier.first (held inside) (fun _ => precedes) folders
    · have ordered : (rest.removeAll own).eraseDups.Pairwise (Earlier files folders) :=
        behind ▸ lists.order.filter _
      exact ordered.imp_of_mem fun inside inside' earlier =>
        earlier.behind ⟨missed inside, missed inside'⟩
    · exact Earlier.first (held inside) (fun holds => absurd holds (missed inside')) folders

private theorem sorted_entries (files : Files) (place : Place) :
    (files.entries place).Pairwise fun (one other : Text × Node) => Text.ble one.1 other.1 = true := by
  apply List.pairwise_mergeSort
  · exact fun _ _ _ => Text.ble_trans
  · exact fun one other => Text.ble_total one.1 other.1

private theorem programsIn_names (sound : Sound files) (clean : '\x00' ∉ folder) (word : Text) :
    ∃ names, files.programsIn word folder = .ok names ∧
      (names.Pairwise fun first second => Text.ble first second = true) ∧
      ∀ name, name ∈ names ↔ word <+: name ∧ Holds files folder name := by
  have named : ¬ folder.contains '\x00' = true := by simpa using clean
  unfold Files.programsIn Files.listed
  rw [if_neg named]
  cases listed : files.list folder with
  | error problem =>
    refine ⟨[], rfl, .nil, fun name => ⟨nofun, ?_⟩⟩
    rintro ⟨-, ⟨place, entries, node, listed', -⟩, -⟩
    cases listed.symm.trans listed'
  | ok pair =>
    obtain ⟨place, entries⟩ := pair
    refine ⟨_, rfl, ?_, fun name => ?_⟩
    · obtain ⟨-, rfl⟩ := find_of_list listed
      refine List.Pairwise.filterMap _ ?_ (sorted_entries files place)
      intro one other precedes name chosen name' chosen'
      obtain ⟨-, same⟩ := Option.ite_none_right_eq_some.mp chosen
      obtain ⟨-, same'⟩ := Option.ite_none_right_eq_some.mp chosen'
      cases same
      cases same'
      exact precedes
    · rw [List.mem_filterMap]
      constructor
      · rintro ⟨⟨other, node⟩, inside, chosen⟩
        obtain ⟨fits, same⟩ := Option.ite_none_right_eq_some.mp chosen
        cases same
        obtain ⟨starts, runs⟩ := Bool.and_eq_true_iff.mp fits
        exact ⟨List.isPrefixOf_iff_prefix.mp starts, ⟨place, entries, node, listed, inside⟩,
          (entryIsProgram_iff sound listed inside).mp runs⟩
      · rintro ⟨starts, ⟨place', entries', node, listed', inside⟩, runs⟩
        cases listed.symm.trans listed'
        refine ⟨(name, node), inside, if_pos ?_⟩
        exact Bool.and_eq_true_iff.mpr ⟨List.isPrefixOf_iff_prefix.mpr starts,
          (entryIsProgram_iff sound listed inside).mpr runs⟩

theorem programs_lists (sound : Sound files) (clean : ∀ folder ∈ folders, '\x00' ∉ folder) (word : Text) :
    ∃ names, files.programs word folders = .ok names ∧ Lists files word folders names := by
  have found : ∃ found, folders.mapM (files.programsIn word) = .ok found ∧
      Lists files word folders found.flatten.eraseDups := by
    induction folders with
    | nil => exact ⟨[], rfl, ⟨by simp, .nil⟩⟩
    | cons folder folders ih =>
      obtain ⟨clean_here, clean⟩ := List.forall_mem_cons.mp clean
      obtain ⟨own, read, sorted, member⟩ := programsIn_names sound clean_here word
      obtain ⟨rest, others, lists⟩ := ih clean
      refine ⟨own :: rest, ?_, lists.cons sorted member⟩
      rw [List.mapM_cons, read, others]
      rfl
  obtain ⟨found, read, lists⟩ := found
  refine ⟨_, ?_, lists⟩
  rw [Files.programs, read]
  rfl

/-- The commands that are listed for a word are the builtins that start with it and the programs that do,
without those that a builtin hides. -/
structure Listing (files : Files) (environment : Environment) (word : Text)
    (builtins programs : List Text) : Prop where
  builtins_member : ∀ name, name ∈ builtins ↔ word <+: name ∧ (Builtin.ofName? name).isSome
  builtins_order : builtins.Pairwise Precedes
  programs_member : ∀ name, name ∈ programs ↔ word <+: name ∧ (Builtin.ofName? name).isSome = false ∧
    ∃ folder ∈ environment.searchPath, Holds files folder name
  programs_order : programs.Pairwise (Earlier files environment.searchPath)
  once : (builtins ++ programs).Nodup

private theorem mem_builtins (name : Text) : name ∈ Builtin.names ↔ (Builtin.ofName? name).isSome := by
  rw [Builtin.ofName?, List.find?_isSome, Builtin.names, List.mem_map]
  simp

private theorem sorted_builtins : Builtin.names.Pairwise Precedes := by
  unfold Precedes
  decide +kernel

theorem listing_of_lists {environment : Environment} {names : List Text}
    (lists : Lists files word environment.searchPath names) :
    Listing files environment word (Builtin.names.filter word.isPrefixOf)
      (names.filter fun name => !(Builtin.names.filter word.isPrefixOf).contains name) := by
  have builtins (name : Text) : name ∈ Builtin.names.filter word.isPrefixOf ↔
      word <+: name ∧ (Builtin.ofName? name).isSome := by
    rw [List.mem_filter, mem_builtins, List.isPrefixOf_iff_prefix, and_comm]
  have order := sorted_builtins.filter word.isPrefixOf
  refine ⟨builtins, order, fun name => ?_, lists.order.filter _, ?_⟩
  · rw [List.mem_filter, lists.member, Bool.not_eq_true', ← Bool.not_eq_true, List.contains_iff_mem,
      builtins]
    grind
  · refine List.nodup_append.mpr ⟨order.imp fun precedes => precedes.2, ?_, ?_⟩
    · exact (lists.order.filter _).imp fun earlier => earlier.ne
    · rintro name inside other inside' rfl
      have apart := (List.mem_filter.mp inside').2
      simp [inside] at apart

/-- The commands for a word are listed completely, each once and in order. A folder of the search path
whose name holds the null character stops the listing. -/
theorem commands_listed (sound : Sound files) (word : Text) (environment : Environment) :
    ((∃ folder ∈ environment.searchPath, '\x00' ∈ folder) →
      commands files word environment = .error .nullInPath) ∧
    ((∀ folder ∈ environment.searchPath, '\x00' ∉ folder) → ∃ builtins programs,
      commands files word environment =
        .ok (builtins.map (named "Builtin") ++ programs.map (named "Command")) ∧
      Listing files environment word builtins programs) := by
  refine ⟨fun null => (commands_null files word environment _).mpr ⟨null, rfl⟩, fun clean => ?_⟩
  obtain ⟨names, read, lists⟩ := programs_lists sound clean word
  refine ⟨_, _, ?_, listing_of_lists lists⟩
  rw [commands, read]
  rfl

/-- Two folders with programs. In the first one there are a link that leads back to itself and a file that
may not be executed. -/
def shelves : Files where
  nodes := [(["a"], .folder false), (["a", "loop"], .link "loop"), (["a", "ls"], .file [] .plain),
    (["a", "lz"], .file [] .program), (["b"], .folder false), (["b", "loop"], .file [] .program),
    (["b", "ls"], .file [] .program), (["b", "lz"], .file [] .program)]

theorem sound_shelves : Sound shelves where
  distinct := by unfold Distinct; decide +kernel
  names entry inside name part := by
    have all : ∀ entry ∈ shelves.nodes, ∀ name ∈ entry.1,
        name ≠ [] ∧ name ≠ ['.'] ∧ name ≠ ['.', '.'] ∧ '/' ∉ name := by decide +kernel
    obtain ⟨filled, noDot, noDots, single⟩ := all entry inside name part
    exact ⟨filled, noDot, noDots, single⟩

theorem listed_shelves :
    shelves.listed "/a" =
      .ok [(("loop" : Text), Node.link "loop"), ("ls", .file [] .plain), ("lz", .file [] .program)] ∧
    shelves.listed "/b" =
      .ok [(("loop" : Text), Node.file [] .program), ("ls", .file [] .program), ("lz", .file [] .program)] :=
  ⟨congrArg Except.ok (List.mergeSort_of_pairwise (by decide)),
    congrArg Except.ok (List.mergeSort_of_pairwise (by decide))⟩

/-- The link and the plain file of the first folder do not hide the programs of the second one. -/
theorem shelves_listed :
    Sound shelves ∧ (∀ folder ∈ Environment.searchPath [("PATH", "/a:/b")], '\x00' ∉ folder) ∧
    ∃ builtins programs, Listing shelves [("PATH", "/a:/b")] "l" builtins programs ∧
      builtins.map (named "Builtin") ++ programs.map (named "Command") =
        (["lz", "loop", "ls"].map (named "Command")) := by
  have clean : ∀ folder ∈ Environment.searchPath [("PATH", "/a:/b")], '\x00' ∉ folder := by decide +kernel
  have path : Environment.searchPath [("PATH", "/a:/b")] = [("/a" : Text), "/b"] := by decide +kernel
  have found : shelves.programs "l" (Environment.searchPath [("PATH", "/a:/b")]) =
      .ok ["lz", "loop", "ls"] := by
    rw [path, Files.programs]
    simp only [List.mapM_cons, List.mapM_nil, Files.programsIn, listed_shelves]
    decide +kernel
  have answer : commands shelves "l" [("PATH", "/a:/b")] =
      .ok (["lz", "loop", "ls"].map (named "Command")) := by
    rw [commands, found]
    decide +kernel
  obtain ⟨builtins, programs, read, listing⟩ :=
    (commands_listed sound_shelves "l" [("PATH", "/a:/b")]).2 clean
  exact ⟨sound_shelves, clean, builtins, programs, listing, Except.ok.inj (read.symm.trans answer)⟩

/-- Where the name of a folder holds the null character not even the builtins are listed. -/
theorem null_hides_builtins :
    commands {} "ex" [("PATH", "a\x00b")] = .error .nullInPath ∧
      ("ex".toList <+: "exit".toList ∧ (Builtin.ofName? "exit").isSome) := by
  refine ⟨(commands_null {} "ex" _ _).mpr ⟨?_, rfl⟩, ?_⟩
  · exact ⟨"a\x00b", by decide +kernel, by decide +kernel⟩
  · decide +kernel

end CommandShell.Proofs.ListedCommands
