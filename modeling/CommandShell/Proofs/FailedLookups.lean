import CommandShell.Proofs.CompletionRoutes
import CommandShell.Proofs.FlagLookups

/-! Which lookups of flags stop a completion, and what the others leave of it. -/

namespace CommandShell.Proofs.FailedLookups
open ActSteps CandidateSources Completion CompletionRoutes FileReads FlagCache FlagLookups FolderGrowth
  HistoryFile KeyTurns

/-- What is seen at a path. There is nothing at one that holds the null character. -/
def seen (files : Files) (path : Text) : Except FileProblem Bool :=
  if path.contains '\x00' then .ok false else files.occupied path

private theorem on_occupied_seen (path : Text) (world : World) :
    (World.occupied path).on world = ((seen world.files path).mapError (.file · path), world) := by
  unfold seen
  split
  next null => exact on_occupied_null null
  next named => exact on_occupied (Bool.eq_false_iff.mpr named)

private theorem seen_true {files : Files} {path : Text} (there : seen files path = .ok true) :
    path.contains '\x00' = false ∧ files.occupied path = .ok true := by
  unfold seen at there
  split at there
  next => cases there
  next named => exact ⟨Bool.eq_false_iff.mpr named, there⟩

/-- What stops a completion that looks up flags: it cannot be seen whether there is a file for them, or there
is none, and the manual fails in a way that does not count as an empty page, or lists rows for a file that
cannot be named. -/
def Stops (cache : FlagCache) (world : World) : Route → Prop
  | .flag command => Unknown cache command ∧
      ((∃ problem, seen world.files (cache.fileOf command).text = .error problem) ∨
        seen world.files (cache.fileOf command).text = .ok false ∧
          ((∃ fault, rowsOfAnswer (answer command world) = .error fault) ∨
            (∃ rows, rowsOfAnswer (answer command world) = .ok rows ∧ rows ≠ []) ∧
              OnlyUnnamed (cache.fileOf command) world.files))
  | _ => False

/-- Work that looks flags up fails just where it stops. Otherwise what was in the files stays there. -/
def Looks (world : World) (stops : Prop) (act : Act World (FlagCache × List FlagRow)) : Prop :=
  (stops ∧ ∃ fault after, act.on world = (.error fault, after)) ∨
    (¬ stops ∧ ∃ known rows after, act.on world = (.ok (known, rows), after) ∧
      Grows world.files after.files)

section Lookups

variable {cache : FlagCache} {world : World} {command : Text}

private theorem on_rowsOf_written (unknown : Unknown cache command)
    (absent : (World.occupied (cache.fileOf command).text).on world = (.ok false, world)) {rows : List FlagRow}
    (answered : rowsOfAnswer (answer command world) = .ok rows) (filled : rows ≠ []) :
    (OnlyUnnamed (cache.fileOf command) world.files ∧
      ∃ fault after, (cache.rowsOf command).on world = (.error fault, after)) ∨
    (¬ OnlyUnnamed (cache.fileOf command) world.files ∧
      ∃ after, (cache.rowsOf command).on world = (.ok (knowing cache command rows, rows), after) ∧
        Grows world.files after.files) := by
  obtain ⟨middle, same, asked⟩ := on_rowsOf_listed unknown absent answered filled
  rw [← same]
  by_cases unnamed : OnlyUnnamed (cache.fileOf command) middle.files
  · obtain ⟨after, stopped⟩ := on_writeFile_unnamed unnamed
    exact .inl ⟨unnamed, _, _, asked _ _ stopped⟩
  · have written : ∃ files journal, (writeFile (cache.fileOf command) rows).on middle =
        (.ok ⟨⟩, { middle with files, journal }) ∧ Grows middle.files files := by
      cases null : (cache.fileOf command).text.contains '\x00' with
      | true => exact on_writeFile_unhoused null unnamed rows
      | false => exact on_writeFile null rows middle
    obtain ⟨files, journal, written, grows⟩ := written
    exact .inr ⟨unnamed, _, asked _ _ written, grows⟩

/-- Where there is no file, the lookup fails as the manual does, or for the name of the file that it writes.
Rows that can not be written for another reason are known all the same. -/
theorem on_rowsOf_asked (unknown : Unknown cache command)
    (unseen : seen world.files (cache.fileOf command).text = .ok false)
    (absent : (World.occupied (cache.fileOf command).text).on world = (.ok false, world)) :
    Looks world (Stops cache world (.flag command)) (cache.rowsOf command) := by
  cases answered : rowsOfAnswer (answer command world) with
  | error fault =>
    obtain ⟨requests, journal, asked⟩ := on_rowsOf_unanswered unknown absent answered
    exact .inl ⟨⟨unknown, .inr ⟨unseen, .inl ⟨fault, answered⟩⟩⟩, _, _, asked⟩
  | ok rows =>
    by_cases blank : rows = []
    · subst blank
      obtain ⟨requests, journal, asked⟩ := on_rowsOf_blank unknown absent answered
      refine .inr ⟨?_, _, _, _, asked, Lasting.refl _⟩
      rintro ⟨-, ⟨problem, refused⟩ | ⟨-, ⟨fault, failed⟩ | ⟨⟨rows, listed, filled⟩, -⟩⟩⟩
      · cases unseen.symm.trans refused
      · cases answered.symm.trans failed
      · exact filled (Except.ok.inj (listed.symm.trans answered))
    · rcases on_rowsOf_written unknown absent answered blank with ⟨unnamed, stopped⟩ | ⟨other, after, asked⟩
      · exact .inl ⟨⟨unknown, .inr ⟨unseen, .inr ⟨⟨rows, answered, blank⟩, unnamed⟩⟩⟩, stopped⟩
      · refine .inr ⟨?_, _, _, after, asked⟩
        rintro ⟨-, ⟨problem, refused⟩ | ⟨-, ⟨fault, failed⟩ | ⟨-, unnamed⟩⟩⟩
        · cases unseen.symm.trans refused
        · cases answered.symm.trans failed
        · exact other unnamed

private theorem on_rowsOf (cache : FlagCache) (world : World) (command : Text) :
    Looks world (Stops cache world (.flag command)) (cache.rowsOf command) := by
  -- The cases are those of the lookup: no name of a program, in memory, and what is seen at the file's path.
  cases usable : command.isEmpty || command.contains '/' with
  | true =>
    refine .inr ⟨?_, cache, [], world, ?_, Lasting.refl _⟩
    · rintro ⟨⟨usable', -⟩, -⟩
      cases usable.symm.trans usable'
    · rw [FlagCache.rowsOf, usable]
      rfl
  | false =>
    cases unread : cache.rows.get? command with
    | some rows =>
      refine .inr ⟨?_, cache, rows, world, rowsOf_known usable unread world, Lasting.refl _⟩
      rintro ⟨⟨-, unread'⟩, -⟩
      cases unread.symm.trans unread'
    | none =>
      have unknown : Unknown cache command := ⟨usable, unread⟩
      have asked := on_occupied_seen (cache.fileOf command).text world
      cases occupied : seen world.files (cache.fileOf command).text with
      | error problem =>
        rw [occupied] at asked
        exact .inl ⟨⟨unknown, .inl ⟨problem, occupied⟩⟩, _, world, on_rowsOf_refused unknown asked⟩
      | ok there =>
        rw [occupied] at asked
        cases there with
        | true =>
          obtain ⟨named, there⟩ := seen_true occupied
          obtain ⟨journal, read⟩ := on_rowsOf_kept unknown named there
          refine .inr ⟨?_, _, _, _, read, Lasting.refl _⟩
          rintro ⟨-, ⟨problem, refused⟩ | ⟨absent, -⟩⟩
          · cases occupied.symm.trans refused
          · cases occupied.symm.trans absent
        | false => exact on_rowsOf_asked unknown occupied asked

private theorem on_rowsFor (cache : FlagCache) (world : World) (route : Route) :
    Looks world (Stops cache world route) (rowsFor cache route) := by
  cases route with
  | path => exact .inr ⟨not_false, cache, [], world, rfl, Lasting.refl _⟩
  | command => exact .inr ⟨not_false, cache, [], world, rfl, Lasting.refl _⟩
  | flag command => exact on_rowsOf cache world command

end Lookups

section Listing

/-- There is no result just if a name holds the null character. -/
def RefusesNull {α : Type} (null : Prop) (result : Except Fault α) : Prop :=
  ∀ fault, result = .error fault ↔ null ∧ fault = .nullInPath

namespace RefusesNull

variable {α β : Type} {null null' : Prop} {result : Except Fault α}

theorem value (value : α) : RefusesNull False (.ok value : Except Fault α) :=
  fun _ => ⟨nofun, fun null => null.1.elim⟩

theorem holds_iff (refuses : RefusesNull null result) : null ↔ result = .error .nullInPath :=
  ⟨fun null => (refuses _).mpr ⟨null, rfl⟩, fun failed => ((refuses _).mp failed).1⟩

theorem bind {next : α → Except Fault β} (refuses : RefusesNull null result)
    (rest : ∀ value, RefusesNull null' (next value)) : RefusesNull (null ∨ null') (result >>= next) := by
  intro fault
  have same := refuses.holds_iff
  -- A result in front means that it was not refused, so only the rest can be.
  cases result with
  | error other =>
    obtain ⟨null, rfl⟩ := (refuses other).mp rfl
    constructor
    · intro failed
      exact ⟨.inl null, (Except.error.inj failed).symm⟩
    · rintro ⟨-, rfl⟩
      rfl
  | ok value =>
    have free : ¬ null := by
      intro null
      cases same.mp null
    rw [or_iff_right free]
    exact rest value fault

theorem change (refuses : RefusesNull null result) (change : α → β) :
    RefusesNull null (result >>= fun value => pure (change value)) := by
  have whole := refuses.bind fun given => value (change given)
  rw [or_false] at whole
  exact whole

theorem mapM {find : α → Except Fault β} {null : α → Prop}
    (refuses : ∀ one, RefusesNull (null one) (find one)) (all : List α) :
    RefusesNull (∃ one ∈ all, null one) (all.mapM find) := by
  induction all with
  | nil =>
    intro fault
    exact ⟨nofun, fun ⟨⟨one, inside, _⟩, _⟩ => absurd inside List.not_mem_nil⟩
  | cons first rest ih =>
    rw [List.mapM_cons, List.exists_mem_cons_iff]
    exact (refuses first).bind fun value => ih.change (value :: ·)

end RefusesNull

variable {files : Files} {word current : Text} {environment : Environment}

private theorem listed_null (files : Files) (folder : Text) :
    RefusesNull ('\x00' ∈ folder) (files.listed folder) := by
  intro fault
  rw [← List.contains_iff_mem, Files.listed]
  split
  next null =>
    rw [and_iff_right null, Except.error.injEq]
    exact eq_comm
  next named =>
    cases files.list folder with
    | ok listed => exact ⟨nofun, fun null => absurd null.1 named⟩
    | error problem => exact ⟨nofun, fun null => absurd null.1 named⟩

private theorem paths_null (files : Files) (word current : Text) (home : Option Text) :
    RefusesNull ('\x00' ∈ (lookedIn (cutAtSlash word).1 current home).text)
      (paths files word current home) := by
  rw [paths_eq, inFolder]
  exact (listed_null _ _).change _

private theorem programsIn_null (files : Files) (front folder : Text) :
    RefusesNull ('\x00' ∈ folder) (files.programsIn front folder) :=
  (listed_null _ _).change _

theorem programs_null (files : Files) (front : Text) (folders : List Text) :
    RefusesNull (∃ folder ∈ folders, '\x00' ∈ folder) (files.programs front folders) :=
  (RefusesNull.mapM (programsIn_null files front) folders).change _

theorem commands_null (files : Files) (word : Text) (environment : Environment) :
    RefusesNull (∃ folder ∈ environment.searchPath, '\x00' ∈ folder) (commands files word environment) :=
  (programs_null files word environment.searchPath).change _

private theorem leading_null (files : Files) (rows : List FlagRow) (word : Text) (environment : Environment)
    (route : Route) :
    RefusesNull (route = .command ∧ ∃ folder ∈ environment.searchPath, '\x00' ∈ folder)
      (leading files rows word environment route) := by
  have other : Route.command = .command ∧ (∃ folder ∈ environment.searchPath, '\x00' ∈ folder) ↔
      ∃ folder ∈ environment.searchPath, '\x00' ∈ folder := and_iff_right rfl
  cases route with
  | path =>
    intro fault
    exact ⟨nofun, fun null => nomatch null.1.1⟩
  | flag command =>
    intro fault
    exact ⟨nofun, fun null => nomatch null.1.1⟩
  | command =>
    rw [other]
    exact commands_null files word environment

def Unlistable (word current : Text) (environment : Environment) (route : Route) : Prop :=
  (route = .command ∧ ∃ folder ∈ environment.searchPath, '\x00' ∈ folder) ∨
    '\x00' ∈ (lookedIn (cutAtSlash word).1 current (environment.get? "HOME")).text

theorem offered_null (route : Route) (files : Files) (rows : List FlagRow) (word current : Text)
    (environment : Environment) :
    RefusesNull (Unlistable word current environment route)
      (offered route files rows word current environment) :=
  (leading_null files rows word environment route).bind fun _ =>
    (paths_null files word current (environment.get? "HOME")).change _

end Listing

section Completions

variable {buffer : LineBuffer} {cache : FlagCache} {world : World} (inside : Inside buffer) (current : Text)
  (environment : Environment)

include inside

private theorem complete_stopped (stops : Stops cache world (route buffer.before)) :
    ∃ fault after, (complete cache buffer.text buffer.cursor current environment).on world =
      (.error fault, after) := by
  obtain ⟨journal, ran⟩ := on_complete inside cache current environment world
  rcases on_rowsFor cache world (route buffer.before) with ⟨-, fault, after, asked⟩ | ⟨goes, -⟩
  · rw [asked] at ran
    exact ⟨_, _, ran⟩
  · exact absurd stops goes

/-- A completion fails just where a lookup of flags stops it or a folder cannot be listed for its name. If it
does not, all candidates for paths are offered as if no flags had been looked up. -/
theorem complete_unless_stopped :
    (Stops cache world (route buffer.before) ∨
        Unlistable (Text.lastWord buffer.before) current environment (route buffer.before) →
      ∃ fault after, (complete cache buffer.text buffer.cursor current environment).on world =
        (.error fault, after)) ∧
    (¬ Stops cache world (route buffer.before) →
      ¬ Unlistable (Text.lastWord buffer.before) current environment (route buffer.before) →
      ∃ known lead found after, (complete cache buffer.text buffer.cursor current environment).on world =
          (.ok (known, .ofCandidates (lead ++ found) (Text.lastWord buffer.before)), after) ∧
        paths after.files (Text.lastWord buffer.before) current (environment.get? "HOME") = .ok found ∧
        (Distinct world.files → ∀ offered,
          paths world.files (Text.lastWord buffer.before) current (environment.get? "HOME") = .ok offered →
          ∀ candidate ∈ offered, candidate ∈ found ∨ asFolder candidate ∈ found)) := by
  obtain ⟨journal, ran⟩ := on_complete inside cache current environment world
  rcases on_rowsFor cache world (route buffer.before) with
    ⟨stops, -⟩ | ⟨goes, known, rows, after, asked, grows⟩
  · have stopped := complete_stopped inside current environment stops
    exact ⟨fun _ => stopped, fun goes => absurd stops goes⟩
  · rw [asked] at ran
    dsimp only at ran
    rw [offeredFor] at ran
    have refuses := offered_null (route buffer.before) after.files rows (Text.lastWord buffer.before) current
      environment
    cases whole : offered (route buffer.before) after.files rows (Text.lastWord buffer.before) current
        environment with
    | error fault =>
      rw [whole] at ran
      exact ⟨fun _ => ⟨_, _, ran⟩, fun _ listable => absurd ((refuses fault).mp whole).1 listable⟩
    | ok all =>
      rw [whole] at ran
      obtain ⟨lead, found, -, last, rfl⟩ := offered_parts whole
      refine ⟨?_, ?_⟩
      · rintro (stops | unlistable)
        · exact absurd stops goes
        · cases whole.symm.trans (refuses.holds_iff.mp unlistable)
      · intro _ _
        refine ⟨_, lead, found, _, ran, last, ?_⟩
        intro distinct offered before
        obtain ⟨found', after', still⟩ := paths_grow grows distinct before
        obtain rfl := Except.ok.inj (last.symm.trans after')
        exact still

end Completions

section Manuals

def hyphened (answered : Outcome × Text) : World where
  files := { nodes := [(["-x"], .file [] .plain)] }
  manual _ := answered

def typed : LineBuffer := ⟨"ls -", 4⟩

variable (answered : Outcome × Text)

theorem route_typed_hyphen : route typed.before = .flag "ls" := by
  rw [route, List.headD_eq_head?_getD, WordBefore.head?_words]
  rfl

private theorem unseen_file : seen (hyphened answered).files (rooted.fileOf "ls").text = .ok false := rfl

private theorem paths_hyphen : paths (hyphened answered).files (Text.lastWord typed.before) "/" none =
    .ok [⟨"-x", "-x", some "File"⟩] := by
  have word : Text.lastWord typed.before = "-" := by decide
  have entries : (hyphened answered).files.entries [] = [(("-x" : Text), Node.file [] .plain)] :=
    List.mergeSort_singleton _
  rw [word, paths_root rfl none entries]
  rfl

theorem missing_manual_completes :
    Inside typed ∧ route typed.before = .flag "ls" ∧
      ∃ known lead found after, (complete rooted typed.text typed.cursor "/" []).on
          (hyphened (.refused .notFound, [])) = (.ok (known, .ofCandidates (lead ++ found) "-"), after) ∧
        (⟨"-x", "-x", some "File"⟩ ∈ found ∨ asFolder ⟨"-x", "-x", some "File"⟩ ∈ found) := by
  have inside : Inside typed := le_refl 4
  have goes : ¬ Stops rooted (hyphened (.refused .notFound, [])) (route typed.before) := by
    rw [route_typed_hyphen]
    rintro ⟨-, ⟨problem, refused⟩ | ⟨-, ⟨fault, failed⟩ | ⟨⟨rows, listed, filled⟩, -⟩⟩⟩
    · cases (unseen_file _).symm.trans refused
    · cases failed
    · cases listed
      exact filled rfl
  have listable : ¬ Unlistable (Text.lastWord typed.before) "/" [] (route typed.before) := by
    rw [route_typed_hyphen]
    rintro (⟨command, -⟩ | null)
    · cases command
    · exact absurd null (by decide)
  obtain ⟨known, lead, found, after, completed, -, still⟩ :=
    (complete_unless_stopped inside "/" []).2 goes listable
  have distinct : Distinct (hyphened (.refused .notFound, [])).files := by
    simp [Distinct, hyphened]
  exact ⟨inside, route_typed_hyphen, known, lead, found, after, completed,
    still distinct _ (paths_hyphen _) _ List.mem_cons_self⟩

/-- A manual that may not be started takes the candidates for paths away. -/
theorem denied_manual_stops :
    paths (hyphened (.refused .denied, [])).files (Text.lastWord typed.before) "/" none =
        .ok [⟨"-x", "-x", some "File"⟩] ∧
      ∃ fault after, (complete rooted typed.text typed.cursor "/" []).on (hyphened (.refused .denied, [])) =
        (.error fault, after) := by
  have stops : Stops rooted (hyphened (.refused .denied, [])) (route typed.before) := by
    rw [route_typed_hyphen]
    exact ⟨⟨rfl, rfl⟩, .inr ⟨unseen_file _, .inl ⟨_, rfl⟩⟩⟩
  exact ⟨paths_hyphen _, complete_stopped (le_refl 4) "/" [] stops⟩

end Manuals

end CommandShell.Proofs.FailedLookups
