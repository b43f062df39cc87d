import CommandShell.Completion.Engine
import CommandShell.Proofs.FlagRows
import CommandShell.Proofs.FolderGrowth
import CommandShell.Proofs.HistoryRuns

/-! Looking up the flags of a command: in the file that keeps them, or in the manual. -/

namespace CommandShell.Proofs.FlagLookups
open ActSteps Completion FileReads FileWrites FlagCache FlagRows FolderGrowth HistoryFile HistoryRecords
  HistoryRuns

def answer (command : Text) (world : World) : Outcome × Text :=
  world.manual (⟨command, "cat", "120"⟩ :: world.requests)

def rowsOfAnswer : Outcome × Text → Except Fault (List FlagRow)
  | (.code 0, page) => .ok (rowsOfPage page)
  | (.code _, _) | (.refused .notFound, _) | (.broken _, _) => .ok []
  | (.refused problem, _) => .error (.file problem "man")
  | (.fault fault, _) => .error fault

def rowsOfFile (files : Files) (file : Path) : List FlagRow :=
  match files.read file.text with
  | .ok content => (Text.lines (textOf content)).filterMap rowOfFileLine?
  | .error _ => []

/-- The flags of a command have to be looked up: it is a name, and not in memory. -/
structure Unknown (cache : FlagCache) (command : Text) : Prop where
  usable : (command.isEmpty || command.contains '/') = false
  unread : cache.rows.get? command = none

def knowing (cache : FlagCache) (command : Text) (rows : List FlagRow) : FlagCache :=
  { cache with rows := cache.rows.set command rows }

private theorem on_askManual (request : ManualRequest) (world : World) :
    (World.askManual request).on world =
      (.ok (world.manual (request :: world.requests)),
        { world with requests := request :: world.requests }) := rfl

theorem on_readManual (command : Text) (world : World) : ∃ requests journal,
    (readManual command).on world =
      (rowsOfAnswer (answer command world), { world with requests, journal }) := by
  rw [readManual, on_bind, on_askManual, ← answer]
  generalize answer command world = answered
  obtain ⟨outcome, page⟩ := answered
  cases outcome with
  | code value =>
    cases value with
    | ofNat n => cases n <;> exact ⟨_, _, rfl⟩
    | negSucc n => exact ⟨_, _, rfl⟩
  | refused problem => cases problem <;> exact ⟨_, _, rfl⟩
  | broken reason => exact ⟨_, _, rfl⟩
  | fault fault => exact ⟨_, _, rfl⟩

section Files

/-- The name of a file is all that keeps the file from being written. -/
def OnlyUnnamed (file : Path) (files : Files) : Prop :=
  file.text.contains '\x00' = true ∧ (file.parent.text.contains '\x00' = true ∨
    (files.ensureFolders file.parent.root file.parent.parts.reverse).2 = .ok ())

theorem on_writeFile_unnamed {file : Path} {rows : List FlagRow} {world : World}
    (unnamed : OnlyUnnamed file world.files) :
    ∃ after, (writeFile file rows).on world = (.error .nullInPath, after) := by
  obtain ⟨null, folder⟩ := unnamed
  by_cases above : file.parent.text.contains '\x00' = true
  · rw [writeFile, on_bind, on_attempt, on_bind, World.ensureFolders, if_pos above]
    exact ⟨_, rfl⟩
  · rw [writeFile, on_bind, on_attempt, on_bind, World.ensureFolders, if_neg above, on_bind, on_get]
    have ensured := folder.resolve_left above
    dsimp only
    generalize world.files.ensureFolders file.parent.root file.parent.parts.reverse = made at ensured
    obtain ⟨files, result⟩ := made
    cases ensured
    simp only [on_bind, on_modify, on_pure, World.writeText, World.editAt, World.atPath, if_pos null, on_throw]
    exact ⟨_, rfl⟩

/-- Folders that cannot be made are only noted, whatever the file is called. -/
theorem on_writeFile_unhoused {file : Path} (null : file.text.contains '\x00' = true) {world : World}
    (other : ¬ OnlyUnnamed file world.files) (rows : List FlagRow) : ∃ files journal,
    (writeFile file rows).on world = (.ok ⟨⟩, { world with files, journal }) ∧ Grows world.files files := by
  have above : ¬ file.parent.text.contains '\x00' = true := fun above => other ⟨null, .inl above⟩
  have grows := grows_ensureFolders world.files file.parent.root file.parent.parts.reverse
  rw [writeFile, on_bind, on_attempt, on_bind, World.ensureFolders, if_neg above, on_bind, on_get]
  have refused : (world.files.ensureFolders file.parent.root file.parent.parts.reverse).2 ≠ .ok () :=
    fun ensured => other ⟨null, .inr ensured⟩
  dsimp only
  generalize world.files.ensureFolders file.parent.root file.parent.parts.reverse = made at grows refused
  obtain ⟨files, result⟩ := made
  cases result with
  | ok => exact absurd rfl refused
  | error problem => exact ⟨files, _, rfl, grows⟩

variable {file : Path} (named : file.text.contains '\x00' = false)

include named

theorem on_readFile (world : World) : ∃ journal,
    (readFile file).on world = (.ok (rowsOfFile world.files file), { world with journal }) := by
  rw [readFile, on_bind, on_attempt, on_readLossy named, rowsOfFile]
  cases world.files.read file.text with
  | ok content => exact ⟨_, rfl⟩
  | error problem => exact ⟨_, rfl⟩

private theorem on_ensureFolders_grows (world : World) : ∃ result files,
    (World.ensureFolders file.parent).on world = (result, { world with files }) ∧ Grows world.files files ∧
      (result = .ok ⟨⟩ ∨ ∃ problem place, result = .error (.file problem place)) := by
  have grows := grows_ensureFolders world.files file.parent.root file.parent.parts.reverse
  have missing : ¬ file.parent.text.contains '\x00' = true := Bool.eq_false_iff.mp (parent_named named)
  rw [World.ensureFolders, if_neg missing, on_bind, on_get]
  dsimp only
  generalize world.files.ensureFolders file.parent.root file.parent.parts.reverse = ensured at grows
  obtain ⟨files, result⟩ := ensured
  cases result with
  | ok => exact ⟨_, files, rfl, grows, .inl rfl⟩
  | error refused => exact ⟨_, files, rfl, grows, .inr ⟨_, _, rfl⟩⟩

private theorem on_writeText_grows (text : Text) (world : World) : ∃ result files,
    (World.writeText file.text text).on world = (result, { world with files }) ∧ Grows world.files files ∧
      (result = .ok ⟨⟩ ∨ ∃ problem place, result = .error (.file problem place)) := by
  rw [World.writeText, World.editAt, on_bind, on_atPath named]
  cases written : world.files.write file.text (Utf8.encode text) with
  | ok files => exact ⟨_, files, rfl, grows_change written, .inl rfl⟩
  | error problem => exact ⟨_, world.files, rfl, Lasting.refl _, .inr ⟨_, _, rfl⟩⟩

theorem on_writeFile (rows : List FlagRow) (world : World) : ∃ files journal,
    (writeFile file rows).on world = (.ok ⟨⟩, { world with files, journal }) ∧ Grows world.files files := by
  obtain ⟨result, made, ensured, grows, outcome⟩ := on_ensureFolders_grows named world
  rw [writeFile, on_bind, on_attempt, on_bind, ensured]
  rcases outcome with rfl | ⟨problem, place, rfl⟩
  · obtain ⟨result, files, written, grows', outcome⟩ :=
      on_writeText_grows named (rows.flatMap lineOfRow) { world with files := made }
    dsimp only
    rw [written]
    have grown := Lasting.trans grows grows'
    rcases outcome with rfl | ⟨problem, place, rfl⟩
    · exact ⟨_, _, rfl, grown⟩
    · exact ⟨_, _, rfl, grown⟩
  · exact ⟨_, _, rfl, grows⟩

end Files

/-- Where there can be a file it holds what was written. -/
theorem on_writeFile_free {file : Path} {world : World} (free : Free file world.files) (rows : List FlagRow) :
    ∃ files, (writeFile file rows).on world = (.ok ⟨⟩, { world with files }) ∧
      Writable file (Utf8.encode (rows.flatMap lineOfRow)) files := by
  obtain ⟨files, changes, held⟩ := free.change fun _ => Utf8.encode (rows.flatMap lineOfRow)
  refine ⟨files, ?_, held⟩
  simp only [writeFile, World.writeText, Files.write]
  rw [on_bind, on_attempt, changes.on_change]
  rfl

section Lookups

variable {cache : FlagCache} {command : Text} {world : World} (unknown : Unknown cache command)

include unknown

theorem on_rowsOf_refused {fault : Fault}
    (refused : (World.occupied (cache.fileOf command).text).on world = (.error fault, world)) :
    (cache.rowsOf command).on world = (.error fault, world) := by
  rw [FlagCache.rowsOf, unknown.usable, unknown.unread]
  simp only [Bool.false_eq_true, if_false, on_bind, refused]

theorem on_rowsOf_kept (named : (cache.fileOf command).text.contains '\x00' = false)
    (there : world.files.occupied (cache.fileOf command).text = .ok true) : ∃ journal,
    (cache.rowsOf command).on world =
      (.ok (knowing cache command (rowsOfFile world.files (cache.fileOf command)),
        rowsOfFile world.files (cache.fileOf command)), { world with journal }) := by
  obtain ⟨journal, read⟩ := on_readFile named world
  refine ⟨journal, ?_⟩
  rw [FlagCache.rowsOf, unknown.usable, unknown.unread]
  simp only [Bool.false_eq_true, if_false, on_bind, on_occupied named, there, Except.mapError, if_true, read]
  rfl

section Absent

variable (absent : (World.occupied (cache.fileOf command).text).on world = (.ok false, world))

include absent

theorem on_rowsOf_unanswered {fault : Fault} (answered : rowsOfAnswer (answer command world) = .error fault) :
    ∃ requests journal,
      (cache.rowsOf command).on world = (.error fault, { world with requests, journal }) := by
  obtain ⟨requests, journal, asked⟩ := on_readManual command world
  refine ⟨requests, journal, ?_⟩
  rw [FlagCache.rowsOf, unknown.usable, unknown.unread]
  simp only [Bool.false_eq_true, if_false, on_bind, absent, asked, answered]

theorem on_rowsOf_blank (answered : rowsOfAnswer (answer command world) = .ok []) :
    ∃ requests journal, (cache.rowsOf command).on world =
      (.ok (knowing cache command [], []), { world with requests, journal }) := by
  obtain ⟨requests, journal, asked⟩ := on_readManual command world
  refine ⟨requests, journal, ?_⟩
  rw [FlagCache.rowsOf, unknown.usable, unknown.unread]
  simp only [Bool.false_eq_true, if_false, on_bind, absent, asked, answered]
  rfl

theorem on_rowsOf_listed {rows : List FlagRow} (answered : rowsOfAnswer (answer command world) = .ok rows)
    (filled : rows ≠ []) : ∃ middle, middle.files = world.files ∧ ∀ result after,
      (writeFile (cache.fileOf command) rows).on middle = (result, after) →
        (cache.rowsOf command).on world = (result.map fun _ => (knowing cache command rows, rows), after) := by
  obtain ⟨requests, journal, asked⟩ := on_readManual command world
  refine ⟨{ world with requests, journal }, rfl, ?_⟩
  intro result after written
  have listed : (!rows.isEmpty) = true := by simpa using filled
  rw [FlagCache.rowsOf, unknown.usable, unknown.unread]
  simp only [Bool.false_eq_true, if_false, on_bind, absent, asked, answered, listed, if_true, written]
  cases result with
  | ok | error => rfl

end Absent

end Lookups

section NextSession

variable {cache : FlagCache} {command page : Text} {world : World}

private theorem rowsOfFile_writable {files : Files} {file : Path} {content : Bytes}
    (held : Writable file content files) :
    rowsOfFile files file = (Text.lines (textOf content)).filterMap rowOfFileLine? := by
  obtain ⟨place, access, found, opens⟩ := held.found
  rw [rowsOfFile, read_of_find found opens]

private theorem flags_of_rowsOf (cache : FlagCache) (command word : Text) (world : World) :
    ((flags cache command word).on world).1.map (·.2) =
      ((cache.rowsOf command).on world).1.map fun found => flagsOfRows found.2 word := by
  rw [flags, on_bind]
  generalize (cache.rowsOf command).on world = asked
  obtain ⟨fault | found, after⟩ := asked
  · rfl
  · rfl

/-- The rows of a page are kept in a file, and the next session reads them back from it. -/
theorem rowsOf_next_session (unknown : Unknown cache command) (free : Free (cache.fileOf command) world.files)
    (answered : answer command world = (.code 0, page)) (filled : rowsOfPage page ≠ []) :
    ∃ after, (cache.rowsOf command).on world =
        (.ok (knowing cache command (rowsOfPage page), rowsOfPage page), after) ∧
      ∀ later : World, later.files = after.files →
        ((FlagCache.rowsOf ⟨cache.folder, []⟩ command).on later).1.map (·.2) =
          .ok ((rowsOfPage page).map reread) := by
  have absent := on_occupied_absent free.named free.absent
  have listed : rowsOfAnswer (answer command world) = .ok (rowsOfPage page) := by
    rw [answered]
    rfl
  obtain ⟨middle, same, asked⟩ := on_rowsOf_listed unknown absent listed filled
  rw [← same] at free
  obtain ⟨files, written, held⟩ := on_writeFile_free free (rowsOfPage page)
  refine ⟨_, asked _ _ written, ?_⟩
  intro later same
  have clean : ∀ row ∈ rowsOfPage page, Clean row := by
    intro row inside
    exact clean_rowsOfPage inside
  change later.files = files at same
  rw [← same] at held
  have unread : Unknown ⟨cache.folder, []⟩ command := ⟨unknown.usable, rfl⟩
  obtain ⟨place, access, found, -⟩ := held.found
  obtain ⟨journal, kept⟩ := on_rowsOf_kept unread held.named (occupied_of_find found)
  have read := rowsOfFile_writable held
  rw [textOf_rows clean, read_rows clean] at read
  rw [kept]
  exact congrArg Except.ok read

/-- The session that asks the manual for flags gets the rows of its page. The next session, which reads them
from the file, gets the same rows just if no flags hold a bar, and then the same candidates. -/
theorem page_read_back (unknown : Unknown cache command) (free : Free (cache.fileOf command) world.files)
    (answered : answer command world = (.code 0, page)) (filled : rowsOfPage page ≠ []) :
    ∃ after, (cache.rowsOf command).on world =
        (.ok (knowing cache command (rowsOfPage page), rowsOfPage page), after) ∧
      ∀ later : World, later.files = after.files →
        ((FlagCache.rowsOf ⟨cache.folder, []⟩ command).on later).1.map (·.2) =
          .ok ((rowsOfPage page).map reread) ∧
        ((rowsOfPage page).map reread = rowsOfPage page ↔ ∀ row ∈ rowsOfPage page, '|' ∉ row.flags) ∧
        ((∀ row ∈ rowsOfPage page, '|' ∉ row.flags) → ∀ word,
          ((flags ⟨cache.folder, []⟩ command word).on later).1.map (·.2) =
            ((flags cache command word).on world).1.map (·.2)) := by
  obtain ⟨after, first, next⟩ := rowsOf_next_session unknown free answered filled
  refine ⟨after, first, ?_⟩
  intro later same
  have read := next later same
  refine ⟨read, map_reread_eq_iff, ?_⟩
  intro barless word
  rw [map_reread_eq_iff.mpr barless] at read
  rw [flags_of_rowsOf, flags_of_rowsOf, first]
  generalize (FlagCache.rowsOf ⟨cache.folder, []⟩ command).on later = asked at read
  obtain ⟨fault | found, last⟩ := asked
  · cases read
  · exact congrArg (fun rows => Except.ok (flagsOfRows rows word)) (Except.ok.inj read)

def paged (page : Text) : World := { manual := fun _ => (.code 0, page) }

def rooted : FlagCache := ⟨⟨"/", []⟩, []⟩

theorem free_rooted : Free (rooted.fileOf "h") {} := free_in_root rfl rfl

theorem version_read_back :
    Free (rooted.fileOf "h") (paged "-v  version").files ∧ rowsOfPage "-v  version" ≠ [] ∧
      ∃ after, (rooted.rowsOf "h").on (paged "-v  version") =
          (.ok (knowing rooted "h" [⟨"-v", "version"⟩], [⟨"-v", "version"⟩]), after) ∧
        ((FlagCache.rowsOf ⟨rooted.folder, []⟩ "h").on after).1.map (·.2) = .ok [⟨"-v", "version"⟩] := by
  have rows : rowsOfPage "-v  version" = [⟨"-v", "version"⟩] := by decide
  have filled : rowsOfPage "-v  version" ≠ [] := by
    rw [rows]
    exact List.cons_ne_nil _ _
  have free : Free (rooted.fileOf "h") (paged "-v  version").files := free_rooted
  obtain ⟨after, first, next⟩ := page_read_back ⟨rfl, rfl⟩ free rfl filled
  obtain ⟨read, same, -⟩ := next after rfl
  rw [same.mpr (by decide)] at read
  rw [rows] at first read
  exact ⟨free_rooted, filled, after, first, read⟩

/-- Flags with a bar lose what follows it to their description. -/
theorem barred_flags_split :
    Free (rooted.fileOf "h") (paged "-a|-b  both").files ∧
      ∃ after, (rooted.rowsOf "h").on (paged "-a|-b  both") =
          (.ok (knowing rooted "h" [⟨"-a|-b", "both"⟩], [⟨"-a|-b", "both"⟩]), after) ∧
        ((FlagCache.rowsOf ⟨rooted.folder, []⟩ "h").on after).1.map (·.2) = .ok [⟨"-a", "-b|both"⟩] := by
  have rows : rowsOfPage "-a|-b  both" = [⟨"-a|-b", "both"⟩] := by decide
  have filled : rowsOfPage "-a|-b  both" ≠ [] := by
    rw [rows]
    exact List.cons_ne_nil _ _
  have free : Free (rooted.fileOf "h") (paged "-a|-b  both").files := free_rooted
  obtain ⟨after, first, next⟩ := rowsOf_next_session ⟨rfl, rfl⟩ free rfl filled
  have read := next after rfl
  rw [rows] at first read
  exact ⟨free_rooted, after, first, read⟩

end NextSession

end CommandShell.Proofs.FlagLookups
