import Mathlib.Data.List.Infix
import CommandShell.Proofs.CommandLookups
import CommandShell.Proofs.CommandWords
import CommandShell.Proofs.ListedCommands
import CommandShell.Proofs.PlainWords

/-! Commands that are offered for a word are found by the highlighter: the folder in which a program was
listed is one of those in which its name is looked up. A line of the name alone is styled as a command. -/

namespace CommandShell.Proofs.OfferedCommands
open CandidateSources CommandLookups Completion EntryPaths FailedLookups FolderGrowth
open ListedCommands PlainWords

/-- Files as a system has them: they are sound, and no name holds the null character. -/
structure Real (files : Files) : Prop extends Sound files where
  clean : ∀ entry ∈ files.nodes, ∀ name ∈ entry.1, '\x00' ∉ name

section Lookups

variable {around : Surroundings} {folder name : Text}

private theorem clean_join (cleanFolder : '\x00' ∉ folder) (cleanName : '\x00' ∉ name) :
    '\x00' ∉ Path.join folder name := by
  unfold Path.join
  split
  · exact cleanName
  · split <;> simp [cleanFolder, cleanName]

private theorem isProgram_of_leads {path : Text} (clean : '\x00' ∉ path)
    (leads : IsProgram around.world.files path) : around.isProgram path = true := by
  obtain ⟨place, content, led⟩ := leads
  simp [Surroundings.isProgram, Files.isRunnable, Files.isFolder, led, clean]

private theorem findsProgram_of_holds (real : Real around.world.files)
    (searched : folder ∈ around.environment.searchPath) (cleanFolder : '\x00' ∉ folder)
    (holds : Holds around.world.files folder name) :
    name ≠ [] ∧ around.findsProgram name = true := by
  obtain ⟨⟨place, entries, node, listed, inside⟩, leads⟩ := holds
  obtain ⟨-, rfl⟩ := find_of_list listed
  have member := mem_entries.mp inside
  have named := real.names _ member name (by simp)
  have cleanName := real.clean _ member name (by simp)
  obtain ⟨element, filled⟩ := List.mem_filter.mp searched
  have written : around.searchText ≠ [] := by
    intro empty
    have only : folder ∈ Text.splitOn ':' around.searchText := element
    rw [empty] at only
    obtain rfl := List.mem_singleton.mp only
    cases filled
  have bare : ¬ name.contains '/' = true := by simpa using named.single
  refine ⟨named.filled, ?_⟩
  rw [Surroundings.findsProgram, if_neg bare, Bool.and_eq_true]
  refine ⟨by simpa using written, List.any_eq_true.mpr ⟨folder, element, ?_⟩⟩
  exact isProgram_of_leads (clean_join cleanFolder cleanName) leads

private theorem isCommand_of_builtin (builtin : (Builtin.ofName? name).isSome = true) :
    name ≠ [] ∧ (Lookups.isCommand {} around name).2 = true := by
  have filled : name ≠ [] := by
    rintro rfl
    exact absurd builtin (by decide)
  refine ⟨filled, ?_⟩
  rw [Lookups.isCommand, if_neg (by simpa using filled), if_pos builtin]

private theorem isCommand_of_found (filled : name ≠ []) (found : around.findsProgram name = true) :
    (Lookups.isCommand {} around name).2 = true := by
  cases builtin : (Builtin.ofName? name).isSome with
  | true => exact (isCommand_of_builtin builtin).2
  | false =>
    have answer : Question.answer {} ⟨around, name⟩ = around.findsProgram name :=
      answer_lookup (by simpa using filled) builtin
    exact answer.trans found

end Lookups

/-- A text in which nothing parts words or joins commands, and nothing is quoted or hidden. -/
structure Bare (text : Text) : Prop where
  ordinary : ∀ c ∈ text, Scan.isSpace c = false ∧ Scan.operator? c = none ∧ Scan.isQuote c = false
  unescaped : '\\' ∉ text
  visible : ∀ c ∈ text, Text.isHiddenControl c = false

instance (text : Text) : Decidable (Bare text) :=
  decidable_of_iff (text.all fun c => !Scan.isSpace c && (Scan.operator? c).isNone &&
    !Scan.isQuote c && c != '\\' && !Text.isHiddenControl c) <| by
    simp only [List.all_eq_true, Bool.and_eq_true, Bool.not_eq_true', Option.isNone_iff_eq_none,
      bne_iff_ne, ne_eq]
    constructor
    · intro all
      refine ⟨fun c inside => ?_, fun inside => (all _ inside).1.2 rfl, fun c inside => (all c inside).2⟩
      obtain ⟨⟨⟨⟨space, sign⟩, quote⟩, -⟩, -⟩ := all c inside
      exact ⟨space, sign, quote⟩
    · rintro ⟨ordinary, unescaped, visible⟩ c inside
      obtain ⟨space, sign, quote⟩ := ordinary c inside
      exact ⟨⟨⟨⟨space, sign⟩, quote⟩, fun same => unescaped (same ▸ inside)⟩, visible c inside⟩

section Highlighting

variable {around : Surroundings} {name : Text} {settings : Settings} {style : Json}

theorem Bare.plain (bare : Bare name) (filled : name ≠ []) : Plain name where
  filled := filled
  ordinary := bare.ordinary
  unescaped inside := bare.unescaped (List.mem_of_mem_dropLast inside)

theorem Bare.withoutControls (bare : Bare name) : Text.withoutControls name = name :=
  List.filter_eq_self.mpr fun c inside => by rw [bare.visible c inside]; rfl

/-- A line of a command alone has one span, which is all of it. -/
theorem spans_of_command (plain : Plain name) (command : (Lookups.isCommand {} around name).2 = true)
    (noKeyword : ∀ keyword ∈ settings.keywords, keyword.text? ≠ some name)
    (given : settings.highlightStyles.get? "command.valid" = some style) (visible : style.isTrue = true) :
    (Lookups.spans {} settings around name).2 = [⟨0, name.length, style⟩] := by
  have means : Word.meaning name = name := meaning_inert (plain_iff.mp plain).2
  have scanned : Scan.ofLine name = { tokens := [⟨.word, name, 0⟩] } := ofText_plain plain 0
  have ordinary : ¬ (settings.keywords.any fun keyword => keyword.text? = some name) = true := by
    simpa using noKeyword
  have styled : (Lookups.commandStyle {} settings around name).2 = "command.valid".toList := by
    rw [Lookups.commandStyle, if_neg ordinary]
    simp only [means, command, if_true]
  have positive : 0 < name.length := List.length_pos_of_ne_nil plain.filled
  rw [Lookups.spans, scanned]
  simp only [Lookups.spansOfTokens, if_true, Option.map_some, Option.getD_some, List.append_nil]
  rw [styled, Lookups.spanOf, given]
  simp [visible, positive, Token.stop]

end Highlighting

section Offers

variable {around : Surroundings} {word : Text} {found : List Candidate}

private theorem value_named {description : Text} {names : List Text} {candidate : Candidate}
    (inside : candidate ∈ names.map (named description)) : candidate.value ∈ names := by
  obtain ⟨name, member, rfl⟩ := List.mem_map.mp inside
  exact member

private theorem isCommand_of_offered (real : Real around.world.files)
    (offered : commands around.world.files word around.environment = .ok found) :
    ∀ candidate ∈ found,
      candidate.value ≠ [] ∧ (Lookups.isCommand {} around candidate.value).2 = true := by
  have clean : ∀ folder ∈ around.environment.searchPath, '\x00' ∉ folder := by
    intro folder searched null
    have refused := (commands_null around.world.files word around.environment _).mpr
      ⟨⟨folder, searched, null⟩, rfl⟩
    cases offered.symm.trans refused
  obtain ⟨names, read, lists⟩ := programs_lists real.toSound clean word
  have listing := listing_of_lists lists
  rw [commands, read] at offered
  obtain rfl := Except.ok.inj offered
  intro candidate inside
  rcases List.mem_append.mp inside with builtin | program
  · exact isCommand_of_builtin ((listing.builtins_member _).mp (value_named builtin)).2
  · obtain ⟨-, -, folder, searched, holds⟩ := (listing.programs_member _).mp (value_named program)
    obtain ⟨filled, leads⟩ := findsProgram_of_holds real searched (clean folder searched) holds
    exact ⟨filled, isCommand_of_found filled leads⟩

end Offers

/-- Whatever is offered as a command for a word is a command to a highlighter that remembers nothing,
with the same files and environment and in any current folder. A line of it alone, if it is bare and no
keyword, has one span: all of it, in the style of commands that are there. -/
theorem offered_commands_highlighted {around : Surroundings} (real : Real around.world.files)
    {word : Text} {found : List Candidate}
    (offered : commands around.world.files word around.environment = .ok found) :
    ∀ candidate ∈ found,
      (Lookups.isCommand {} around candidate.value).2 = true ∧
      ∀ (shell : Shell) (style : Json), shell.highlighter = some {} →
        shell.settings.highlightStyles.get? "command.valid" = some style → style.isTrue = true →
        Bare candidate.value →
        (∀ keyword ∈ shell.settings.keywords, keyword.text? ≠ some candidate.value) →
        ((Shell.styleLine around candidate.value).on shell).1 =
          .ok [⟨0, candidate.value.length, style⟩] := by
  intro candidate inside
  obtain ⟨filled, command⟩ := isCommand_of_offered real offered candidate inside
  refine ⟨command, fun shell style fresh given visible bare noKeyword => ?_⟩
  have one := spans_of_command (bare.plain filled) command noKeyword given visible
  change Except.ok ((shell.highlighter.getD {}).spans shell.settings around
    (Text.withoutControls candidate.value)).2 = _
  rw [fresh, bare.withoutControls, Option.getD_some, one]

private theorem real_shelves : Real shelves where
  toSound := sound_shelves
  clean := by decide +kernel

/-- A program behind an element of the search path that is empty, and behind a folder with a link of its
name that leads nowhere. -/
theorem hidden_program_highlighted :
    let around : Surroundings := ⟨{ files := shelves }, [("PATH", ":/a:/b")], "/a"⟩
    let shell : Shell := { bareShell with highlighter := some {} }
    Real around.world.files ∧
    commands around.world.files "lo" around.environment = .ok [named "Command" "loop"] ∧
    shell.settings.highlightStyles.get? "command.valid" = some (.text "bold #a6d189") ∧
    Bare "loop" ∧ (∀ keyword ∈ shell.settings.keywords, keyword.text? ≠ some "loop".toList) ∧
    (Lookups.isCommand {} around "loop").2 = true ∧
    ((Shell.styleLine around "loop").on shell).1 = .ok [⟨0, 4, .text "bold #a6d189"⟩] := by
  intro around shell
  have path : around.environment.searchPath = [("/a" : Text), "/b"] := by decide +kernel
  have programs : shelves.programs "lo" around.environment.searchPath = .ok ["loop"] := by
    rw [path, Files.programs]
    simp only [List.mapM_cons, List.mapM_nil, Files.programsIn, listed_shelves]
    decide +kernel
  have offered : commands around.world.files "lo" around.environment =
      .ok [named "Command" "loop"] := by
    rw [commands, programs]
    decide +kernel
  have bare : Bare "loop" := by decide
  have given : shell.settings.highlightStyles.get? "command.valid" = some (.text "bold #a6d189") := rfl
  have noKeyword : ∀ keyword ∈ shell.settings.keywords, keyword.text? ≠ some "loop".toList := by
    decide +kernel
  have real : Real around.world.files := real_shelves
  obtain ⟨command, highlighted⟩ := offered_commands_highlighted real offered _ List.mem_cons_self
  exact ⟨real, offered, given, bare, noKeyword, command,
    highlighted shell _ rfl given rfl bare noKeyword⟩

end CommandShell.Proofs.OfferedCommands
