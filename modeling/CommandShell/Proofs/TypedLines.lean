import CommandShell.Proofs.TypedKeys
import CommandShell.Proofs.WriteOnlyScreen

/-! Lines that are typed at a terminal, and the same lines when they are read. Typing a line writes
it into the file of the history before it is carried out, and draws after every key. Neither tells
the two apart as long as the folder of that file is there. -/

namespace CommandShell.Proofs.TypedLines
open ActSteps FolderWalks HistoryFile KeyRuns LineRuns SameWork Shell TypedKeys WriteOnlyScreen

/-- The keys that type lines, each line with the key that enters it, and then the end of input. -/
def strokes (lines : List Text) : List Arrival :=
  (lines.flatMap fun line => line ++ ['\r']).map (fun c => .chars [c]) ++ [.closed]

structure Entered where
  line : Text
  before : Shell

/-- The lines that are carried out, in order. None is once the session has ended. -/
def entered : List Text → Shell → List Entered
  | [], _ => []
  | line :: rest, shell =>
    if shell.session.running then ⟨line, shell⟩ :: entered rest ((execute line).on shell).2 else []

/-- Lines that can be typed into a shell without abbreviations, whose history has no file or one in a
folder that is there. Drawing does not fail, and no command that is carried out adds an abbreviation
or takes standard input. -/
structure Prepared (lines : List Text) (shell : Shell) : Prop where
  printable : ∀ line ∈ lines, ∀ c ∈ line, Text.isPrintable c = true
  fresh : Fresh shell
  table : shell.session.abbreviations.table = []
  housed : ∀ path ∈ shell.session.history.file, Housed path shell.world.files
  prompt : ∃ folder, shell.session.shownFolder shell.world = .ok folder
  typed : Draws (runTerminal (strokes lines)) shell
  read : Draws (runLines (lines.map (· ++ ['\n']))) shell
  plain : ∀ entry ∈ entered lines (recording shell),
    ∀ stage ∈ stages (commandsOf entry.line) entry.before, Plain stage.command

/-- Two runs that started the same programs and ended with the same status, in the same folder and
the same environment. -/
structure SameRun (first second : Except Fault Int × Shell) : Prop where
  launches : first.2.world.launches = second.2.world.launches
  core : Core.ofSession first.2.session = Core.ofSession second.2.session
  status : ∃ code, first.1 = .ok code ∧ second.1 = .ok code

section Work

variable {known files : Files} {history : History}

private theorem receiveAll_stopped {shell : Shell} (ended : shell.session.running = false)
    (arrivals : List Arrival) : (receiveAll arrivals).on shell = (.ok ⟨⟩, shell) := by
  cases arrivals with
  | nil => rfl
  | cons arrival rest =>
    simp only [receiveAll, on_bind, on_get, ended, Bool.false_eq_true, if_false, on_pure]

theorem on_receiveAll {chars : Text} {shell after : Shell} (runs : shell.session.running = true)
    (took : (takeChars chars).on shell = (.ok ⟨⟩, after)) (rest : List Arrival) :
    (receiveAll (.chars chars :: rest)).on shell = (receiveAll rest).on after := by
  simp only [receiveAll, receive, on_bind, on_get, runs, if_true, took, on_pure]
  by_cases more : after.session.running = true
  · rw [if_pos more]
  · rw [if_neg more, receiveAll_stopped (Bool.eq_false_iff.mpr more)]
    rfl

theorem alike_running {typed piped : Shell} (alike : Alike known typed piped) :
    typed.session.running = piped.session.running := congrArg Core.running alike.1

/-- Typing characters brings them into the line and does nothing else. -/
theorem types {front chars : Text} (printable : ∀ c ∈ chars, Text.isPrintable c = true)
    {typed piped : Shell} (alike : Alike known typed piped)
    (awaiting : Awaiting history files front typed) (runs : piped.session.running = true) (rest : List Arrival) :
    ∃ after, (receiveAll (chars.map (fun c => .chars [c]) ++ rest)).on typed =
        (receiveAll rest).on after ∧
      Alike known after piped ∧ Awaiting history files (front ++ chars) after := by
  induction chars generalizing front typed with
  | nil => exact ⟨typed, rfl, alike, by rwa [List.append_nil]⟩
  | cons c more ih =>
    obtain ⟨middle, took, alike', awaiting'⟩ :=
      takes_printable (printable c List.mem_cons_self) alike awaiting
    obtain ⟨after, ran, still⟩ :=
      ih (fun c inside => printable c (List.mem_cons_of_mem _ inside)) alike' awaiting'
    refine ⟨after, ?_, by rwa [List.append_assoc] at still⟩
    rw [List.map_cons, List.cons_append, on_receiveAll ((alike_running alike).trans runs) took, ran]

private theorem strokes_cons (line : Text) (rest : List Text) :
    strokes (line :: rest) = line.map (fun c => .chars [c]) ++ .chars ['\r'] :: strokes rest := by
  simp [strokes]

theorem printable_of_all {lines : List Text} (all : lines.all (·.all Text.isPrintable) = true) :
    ∀ line ∈ lines, ∀ c ∈ line, Text.isPrintable c = true :=
  fun line inside => List.all_eq_true.mp (List.all_eq_true.mp all line inside)

theorem no_break {line : Text} (printable : ∀ c ∈ line, Text.isPrintable c = true) :
    ∀ c ∈ line, c ≠ '\n' := by
  rintro c inside rfl
  exact absurd (printable _ inside) (by decide)

private theorem on_runLine {line : Text} (whole : ∀ c ∈ line, c ≠ '\n') (shell : Shell) :
    (runLine (line ++ ['\n'])).on shell = (discard (execute line)).on shell := by
  have cut : ((line ++ ['\n']).reverse.dropWhile (· = '\n')).reverse = line := by
    have same : line.reverse.dropWhile (· = '\n') = line.reverse := by
      cases reversed : line.reverse with
      | nil => rfl
      | cons c more =>
        have inside : c ∈ line := List.mem_reverse.mp (by rw [reversed]; exact List.mem_cons_self)
        exact List.dropWhile_cons_of_neg (by simpa using whole c inside)
    rw [List.reverse_append, List.reverse_singleton, List.singleton_append,
      List.dropWhile_cons_of_pos (by rfl), same, List.reverse_reverse]
  unfold runLine
  rw [cut]
  dsimp only
  by_cases blank : (Text.trim line).isEmpty = true
  · rw [if_pos blank, execute, on_discard, if_pos blank]
    rfl
  · rw [if_neg blank]

theorem on_runLines {line : Text} (whole : ∀ c ∈ line, c ≠ '\n') {shell after : Shell} {code : Int}
    (runs : shell.session.running = true) (carried : (execute line).on shell = (.ok code, after))
    (rest : List Text) : (runLines ((line ++ ['\n']) :: rest)).on shell = (runLines rest).on after := by
  simp only [runLines, on_bind, on_get, runs, if_true, on_runLine whole, on_discard, carried, Except.map]

private theorem types_lines (lines : List Text)
    (printable : ∀ line ∈ lines, ∀ c ∈ line, Text.isPrintable c = true) {typed piped : Shell}
    (alike : Alike known typed piped) (awaiting : Awaiting history files [] typed)
    (kept : ∀ entry ∈ entered lines piped, ∀ path ∈ history.file, InPlace path entry.before.world.files)
    (plain : ∀ entry ∈ entered lines piped, ∀ stage ∈ stages (commandsOf entry.line) entry.before,
      Plain stage.command) :
    ∃ after after', (receiveAll (strokes lines)).on typed = (.ok ⟨⟩, after) ∧
      (runLines (lines.map (· ++ ['\n']))).on piped = (.ok after'.session.lastCode, after') ∧
      Alike known after after' := by
  -- After each line the shells are alike again, but the typed one has a longer history and other
  -- files. The file of the history is the same one throughout.
  induction lines generalizing history files typed piped with
  | nil =>
    refine ⟨typed, piped, ?_, rfl, alike⟩
    rw [strokes, List.flatMap_nil, List.map_nil, List.nil_append]
    simp only [receiveAll, receive, on_bind, on_get]
    split <;> rfl
  | cons line rest ih =>
    by_cases runs : piped.session.running = true
    · rw [entered, if_pos runs] at kept plain
      have whole := no_break (printable line List.mem_cons_self)
      obtain ⟨middle, brought, alike, awaiting⟩ := types (printable line List.mem_cons_self) alike
        awaiting runs (.chars ['\r'] :: strokes rest)
      rw [List.nil_append] at awaiting
      obtain ⟨⟨code, carried⟩, turned, next, files, took, alike', awaiting', stored⟩ :=
        takes_enter alike awaiting (kept _ List.mem_cons_self) (plain _ List.mem_cons_self)
      obtain ⟨after, after', ran, ran', still⟩ :=
        ih (fun line inside => printable line (List.mem_cons_of_mem _ inside)) alike' awaiting'
          (fun entry inside => by
            rw [stored]
            exact kept entry (List.mem_cons_of_mem _ inside))
          fun entry inside => plain entry (List.mem_cons_of_mem _ inside)
      refine ⟨after, after', ?_, ?_, still⟩
      · rw [strokes_cons, brought, on_receiveAll ((alike_running alike).trans runs) took, ran]
      · rw [List.map_cons, on_runLines whole runs (Prod.ext carried rfl), ran']
    · have ended := Bool.eq_false_iff.mpr runs
      refine ⟨typed, piped, receiveAll_stopped ((alike_running alike).trans ended) _, ?_, alike⟩
      simp only [List.map_cons, runLines, on_bind, on_get, ended, Bool.false_eq_true, if_false, on_pure]

end Work

section Folders

private theorem on_changeFolder_entered {shell : Shell} {files : Files} {target : Text}
    (named : target.contains '\x00' = false) (entered : shell.world.files.enter target = .ok files)
    (arguments : List Text) :
    (changeFolder arguments target).on shell = (.ok (.status 0), { shell with
      world := { shell.world with files }
      session := { shell.session with previous := some shell.session.current }.followProcess
        { shell.world with files } }) := by
  have missing : ¬ target.contains '\x00' = true := Bool.eq_false_iff.mp named
  simp only [changeFolder, on_bind, on_get, on_attempt, inWorld, on_part, World.enter, World.editAt,
    World.atPath, if_neg missing, entered]
  rfl

private theorem on_changeFolder_refused {shell : Shell} {problem : FileProblem} {target : Text}
    (named : target.contains '\x00' = false) (refused : shell.world.files.enter target = .error problem)
    (keeping : Keeping shell) (arguments : List Text) :
    ∃ notices, (changeFolder arguments target).on shell =
      (.ok (.status 1), { shell with screen := .record notices }) := by
  have missing : ¬ target.contains '\x00' = true := Bool.eq_false_iff.mp named
  obtain ⟨notices, shown⟩ := keeping.display
    (.error (Text.join " " ("cd" :: arguments)) ("cd: " ++ (Fault.file problem target).message))
  refine ⟨notices, ?_⟩
  simp only [changeFolder, on_bind, on_get, on_attempt, inWorld, on_part, World.enter, World.editAt,
    World.atPath, if_neg missing, refused, on_throw, Fault.isFile, if_true, shown, on_pure]

private theorem on_execute_single {line program : Text} {arguments : List Text}
    (read : Job.ofLine line = .ok ⟨[⟨⟨program, arguments, []⟩, [], false⟩], []⟩)
    (filled : (Text.trim line).isEmpty = false) {shell after : Shell} {code : Int}
    (runs : shell.session.running = true)
    (ran : (runCommand ⟨program, arguments, []⟩).on shell = (.ok code, after)) :
    (execute line).on shell =
      (.ok code, { after with session := { after.session with lastCode := code } }) := by
  have noted : (notePipeline ⟨⟨program, arguments, []⟩, [], false⟩).on shell = (.ok ⟨⟩, shell) := rfl
  have carried : (runPipelines [⟨⟨program, arguments, []⟩, [], false⟩]).on shell =
      (.ok ⟨⟩, { after with session := { after.session with lastCode := code } }) := by
    rw [runPipelines_running runs, on_bind, runPipeline, on_bind, noted]
    dsimp only
    rw [ran]
    rfl
  have quiet : (noteDiagnostics line []).on shell = (.ok ⟨⟩, shell) := rfl
  have blank : ¬ (Text.trim line).isEmpty = true := Bool.eq_false_iff.mp filled
  unfold execute
  rw [if_neg blank, read]
  dsimp only
  rw [on_bind, quiet]
  dsimp only
  rw [on_bind, on_attempt, carried]
  rfl

structure Enters (line target : Text) : Prop where
  read : Job.ofLine line = .ok ⟨[⟨⟨"cd", [target], []⟩, [], false⟩], []⟩
  filled : (Text.trim line).isEmpty = false
  printable : ∀ c ∈ line, Text.isPrintable c = true
  expands (session : Session) (world : World) : session.expandPath world target = .ok target
  forward : target ≠ ['-']
  named : target.contains '\x00' = false

theorem Enters.on_execute {line target : Text} (enters : Enters line target) {shell : Shell}
    (runs : shell.session.running = true) {code : Int} {after : Shell}
    (changed : (changeFolder [target] target).on shell = (.ok (.status code), after)) :
    (execute line).on shell =
      (.ok code, { after with session := { after.session with lastCode := code } }) := by
  have called : Builtin.ofName? "cd" = some .cd := rfl
  have entered : (runCd [target]).on shell = (changeFolder [target] target).on shell := by
    unfold runCd
    rw [on_bind, on_get]
    dsimp only
    split
    next none => cases none
    next back =>
      cases back
      exact absurd rfl enters.forward
    next given =>
      cases given
      rw [on_bind, on_ofExcept, enters.expands]
    next other => exact absurd rfl (other target)
  refine on_execute_single enters.read enters.filled runs ?_
  simp only [runCommand, called, runBuiltin, on_bind, entered, changed, on_pure]

theorem Enters.commands {line target : Text} (enters : Enters line target) :
    commandsOf line = [⟨"cd", [target], []⟩] := by
  have blank : ¬ (Text.trim line).isEmpty = true := Bool.eq_false_iff.mp enters.filled
  rw [commandsOf, if_neg blank, enters.read]
  rfl

/-- What recording a line and then entering a folder makes of the files. -/
structure Opens (path : Path) (bytes : Bytes) (target : Text) (files made written after : Files) :
    Prop where
  makes : files.ensureFolders path.parent.root path.parent.parts.reverse = (made, .ok ())
  writes : made.append path.text bytes = .ok written
  enters : written.enter target = .ok after

/-- Typing such a line records it where the session is, and then enters the folder. -/
theorem Enters.typed {line target : Text} (enters : Enters line target) {shell : Shell}
    {history : History} {files made : Files} {path : Path} {written inside : Bytes → Files}
    (awaiting : Awaiting history files [] shell) (empty : shell.session.abbreviations.table = [])
    (keeping : Keeping shell) (runs : shell.session.running = true)
    (stored : history.file = some path) (named : path.text.contains '\x00' = false)
    (accepted : history.accepts line = true)
    (opens : ∀ bytes, Opens path bytes target files made (written bytes) (inside bytes))
    (rest : List Arrival) :
    ∃ last time bytes,
      (receiveAll (line.map (fun c => .chars [c]) ++ .chars ['\r'] :: rest)).on shell =
        (receiveAll rest).on last ∧
      Awaiting (history.push ⟨line, time⟩) (inside bytes) [] last ∧
      last.session.abbreviations.table = [] ∧ Keeping last ∧ last.session.running = true ∧
      last.session.lastCode = 0 := by
  have alike := alike_self empty keeping
  obtain ⟨middle, brought, alike, awaiting⟩ :=
    types enters.printable alike awaiting runs (.chars ['\r'] :: rest)
  obtain ⟨core, -, -, ⟨empty, keeping⟩, -⟩ := alike
  have runs : middle.session.running = true := (congrArg Core.running core).trans runs
  obtain ⟨makes, writes, entered⟩ := opens (Utf8.encode (History.record ⟨line, middle.world.now⟩))
  rw [← awaiting.files] at makes
  obtain ⟨ready, refreshed, taken⟩ :=
    on_enterKey awaiting empty keeping (run_add_written stored accepted named makes writes)
  have recorded : ready.world.files = written (Utf8.encode (History.record ⟨line, middle.world.now⟩)) :=
    refreshed.files
  rw [← recorded] at entered
  have running : ready.session.running = true := (congrArg Session.running refreshed.session).trans runs
  have carried := enters.on_execute running (on_changeFolder_entered enters.named entered [target])
  obtain ⟨last, took, drawn, awaiting⟩ := taken 0 _ carried
  refine ⟨last, _, _, ?_, awaiting, ?_⟩
  · rw [brought, on_receiveAll runs took]
  · rw [drawn.session]
    dsimp only [Session.followProcess]
    rw [refreshed.session]
    exact ⟨empty, drawn.keeping, runs, rfl⟩

end Folders

section Runs

variable {known : Files} {shell : Shell}

/-- Where a line is carried out, there are the folders that there were at first. -/
theorem alike_entered {lines : List Text} (alike : Alike known shell shell)
    (plain : ∀ entry ∈ entered lines shell, ∀ stage ∈ stages (commandsOf entry.line) entry.before,
      Plain stage.command) :
    ∀ entry ∈ entered lines shell, SameFolders known entry.before.world.files := by
  intro entry inside
  induction lines generalizing shell with
  | nil => cases inside
  | cons line rest ih =>
    rw [entered] at inside plain
    split at inside
    next runs =>
      rw [if_pos runs] at plain
      obtain ⟨-, -, -, still⟩ := alike_execute line alike (plain _ List.mem_cons_self)
      cases inside with
      | head => exact alike.2.2.1.first
      | tail _ later =>
        exact ih still (fun entry inside => plain entry (List.mem_cons_of_mem _ inside)) later
    next => cases inside

theorem on_start (keeping : Keeping shell) {folder : Text}
    (prompt : shell.session.shownFolder shell.world = .ok folder) :
    ∃ after, start.on shell = (.ok ⟨⟩, after) ∧ Refreshed shell after := by
  obtain ⟨welcomed, shown, refreshed⟩ := refreshed_display keeping .welcome
  have raw := refreshed.trans (refreshed_inMode refreshed.keeping .raw)
  obtain ⟨result, drawn⟩ := on_render raw.keeping
  have same : (inMode .raw welcomed).session.shownFolder (inMode .raw welcomed).world = .ok folder := by
    obtain ⟨notices, highlighter, journal, mode, modeChanges, after⟩ := raw
    rw [after]
    exact prompt
  rw [same] at result
  refine ⟨_, ?_, raw.trans drawn⟩
  simp only [start, on_bind, shown, on_setMode]
  exact Prod.ext result rfl

private theorem on_finish (keeping : Keeping shell) :
    ∃ after, finish.on shell = (.ok shell.session.lastCode, after) ∧ Refreshed shell after := by
  obtain ⟨left, shown, refreshed⟩ := refreshed_display keeping .finishLine
  have cooked := refreshed.trans (refreshed_inMode refreshed.keeping .cooked)
  obtain ⟨last, shown', refreshed'⟩ := refreshed_display cooked.keeping .goodbye
  have all := cooked.trans refreshed'
  refine ⟨last, ?_, all⟩
  simp only [finish, on_bind, shown, on_setMode, shown', on_get, on_pure, all.session]

theorem on_runTerminal {arrivals : List Arrival} {started middle : Shell}
    (begun : start.on shell = (.ok ⟨⟩, started))
    (received : (receiveAll arrivals).on started = (.ok ⟨⟩, middle)) (keeping : Keeping middle) :
    ∃ after, (runTerminal arrivals).on shell = (.ok middle.session.lastCode, after) ∧
      Refreshed middle after := by
  obtain ⟨after, finished, refreshed⟩ := on_finish keeping
  refine ⟨inMode .cooked after, ?_, refreshed.trans (refreshed_inMode refreshed.keeping .cooked)⟩
  simp only [runTerminal, on_bind, on_attempt, begun, received, finished, on_setMode, on_ofExcept]

private theorem runs_alike {lines : List Text}
    (printable : ∀ line ∈ lines, ∀ c ∈ line, Text.isPrintable c = true)
    (fresh : Fresh shell) (empty : shell.session.abbreviations.table = []) (keeping : Keeping shell)
    {folder : Text} (prompt : shell.session.shownFolder shell.world = .ok folder)
    (kept : ∀ entry ∈ entered lines shell, ∀ path ∈ shell.session.history.file,
      InPlace path entry.before.world.files)
    (plain : ∀ entry ∈ entered lines shell, ∀ stage ∈ stages (commandsOf entry.line) entry.before,
      Plain stage.command) :
    ∃ after after', (runTerminal (strokes lines)).on shell = (.ok after'.session.lastCode, after) ∧
      (runLines (lines.map (· ++ ['\n']))).on shell = (.ok after'.session.lastCode, after') ∧
      Alike shell.world.files after after' := by
  have alike := alike_self empty keeping
  have awaiting : Awaiting shell.session.history shell.world.files [] shell :=
    ⟨by rw [fresh.editor]; rfl, by rw [fresh.editor], fresh.closed, rfl, rfl⟩
  obtain ⟨started, begun, refreshed⟩ := on_start keeping prompt
  obtain ⟨middle, after', received, carried, still⟩ :=
    types_lines lines printable (refreshed.alike alike) (refreshed.awaiting awaiting) kept plain
  obtain ⟨after, ran, refreshed'⟩ := on_runTerminal begun received still.2.2.2.1.2
  have code : middle.session.lastCode = after'.session.lastCode := congrArg Core.lastCode still.1
  rw [code] at ran
  exact ⟨after, after', ran, carried, refreshed'.alike still⟩

/-- Typing lines comes to the same as having them read, if the file of the history can be named, and
its folder is there for every line. A path from the root leads to the same folder for all of them. -/
theorem typed_like_read {lines : List Text} (prepared : Prepared lines shell)
    (named : ∀ path ∈ shell.session.history.file, path.text.contains '\x00' = false)
    (stays : ∀ path ∈ shell.session.history.file, Path.isAbsolute path.root = true ∨
      ∀ entry ∈ entered lines (recording shell), Housed path entry.before.world.files) :
    SameRun ((runTerminal (strokes lines)).on shell)
      ((runLines (lines.map (· ++ ['\n']))).on shell) := by
  obtain ⟨printable, fresh, empty, housed, ⟨folder, prompt⟩, typedDraws, readDraws, plain⟩ := prepared
  have fresh : Fresh (recording shell) := ⟨fresh.editor, fresh.closed⟩
  have keeping : Keeping (recording shell) := ⟨[], rfl⟩
  have alike : Alike shell.world.files (recording shell) (recording shell) := alike_self empty keeping
  have kept (entry : Entered) (inside : entry ∈ entered lines (recording shell)) (path : Path)
      (stored : path ∈ shell.session.history.file) : InPlace path entry.before.world.files := by
    obtain absolute | there := stays path stored
    · exact inPlace_absolute (alike_entered alike plain entry inside) absolute
        ⟨named path stored, housed path stored⟩
    · exact ⟨named path stored, there entry inside⟩
  obtain ⟨after, after', typed, read, core, -, worlds, -⟩ :=
    runs_alike printable fresh empty keeping prompt kept plain
  -- The screen of the shell may be any: with one that keeps the notices both runs do the same.
  obtain ⟨screen, onTyped⟩ := (writeOnly_runTerminal (strokes lines)).on_drawn typedDraws
  obtain ⟨screen', onRead⟩ := (writeOnly_runLines (lines.map (· ++ ['\n']))).on_drawn readDraws
  rw [onTyped, onRead, typed, read]
  exact ⟨worlds.launches, core, _, rfl, rfl⟩

end Runs

section Differences

theorem plain_single {line program : Text} {arguments : List Text}
    (commands : commandsOf line = [⟨program, arguments, []⟩])
    (noAbbreviation : Builtin.ofName? program ≠ some .abbr) (noInput : Builtin.ofName? program ≠ some .pbcopy) :
    ∀ command ∈ commandsOf line, Plain command := by
  intro command inside
  rw [commands] at inside
  obtain rfl := List.mem_singleton.mp inside
  exact ⟨fun called => absurd called noAbbreviation, fun called => absurd called noInput⟩

theorem plain_of_lines {lines : List Text}
    (plain : ∀ line ∈ lines, ∀ command ∈ commandsOf line, Plain command) {shell : Shell} :
    ∀ entry ∈ entered lines shell, ∀ stage ∈ stages (commandsOf entry.line) entry.before,
      Plain stage.command := by
  intro entry inside stage ran
  induction lines generalizing shell with
  | nil => cases inside
  | cons line rest ih =>
    rw [entered] at inside
    split at inside
    · cases inside with
      | head =>
        have first := (stages_front (commandsOf line) shell).subset (List.mem_map_of_mem ran)
        exact plain line List.mem_cons_self _ first
      | tail _ later =>
        exact ih (fun line inside => plain line (List.mem_cons_of_mem _ inside)) later
    · cases inside

def twoFolders (more : List (Place × Node)) (here : Place) : Files :=
  ⟨(["h"], .folder false) :: (["s"], .folder false) :: more, here⟩

theorem enters_s : Enters "cd /s" "/s" where
  read := ofLine_of_some (by decide +kernel)
  filled := by decide
  printable := List.all_eq_true.mp (by decide)
  expands _ _ := rfl
  forward := by decide
  named := by decide

def rootedShell : Shell :=
  { bareShell with
    world := { files := twoFolders [] [] }
    session := {
      environment := [("HOME", "/")], current := "/"
      history := { bareShell.session.history with file := some ⟨"/", ["h", "f"]⟩ } } }

def rootedLines : List Text := ["cd /s", "ls", "exit 3", "pwd"]

private theorem rooted_prepared : Prepared rootedLines rootedShell where
  printable := printable_of_all (by decide)
  fresh := ⟨rfl, rfl⟩
  table := rfl
  housed := by
    have found : (twoFolders [] []).find "/h" = .ok (["h"], .folder false) := rfl
    rintro path ⟨rfl⟩
    exact ⟨["h"], false, found⟩
  prompt := ⟨_, rfl⟩
  typed := draws_record _ rfl
  read := draws_record _ rfl
  plain := by
    have list : commandsOf "ls" = [⟨"ls", [], []⟩] := by decide +kernel
    have leave : commandsOf "exit 3" = [⟨"exit", ["3"], []⟩] := by decide +kernel
    have tell : commandsOf "pwd" = [⟨"pwd", [], []⟩] := by decide +kernel
    refine plain_of_lines ?_
    rintro line (_ | ⟨_, _ | ⟨_, _ | ⟨_, _ | ⟨_, ⟨⟩⟩⟩⟩⟩)
    · exact plain_single enters_s.commands (by decide) (by decide)
    · exact plain_single list (by decide) (by decide)
    · exact plain_single leave (by decide) (by decide)
    · exact plain_single tell (by decide) (by decide)

theorem typed_like_read_rooted :
    Prepared rootedLines rootedShell ∧
      (∀ path ∈ rootedShell.session.history.file, path.text.contains '\x00' = false) ∧
      (∀ path ∈ rootedShell.session.history.file, Path.isAbsolute path.root = true ∨
        ∀ entry ∈ entered rootedLines (recording rootedShell), Housed path entry.before.world.files) ∧
      SameRun ((runTerminal (strokes rootedLines)).on rootedShell)
        ((runLines (rootedLines.map (· ++ ['\n']))).on rootedShell) := by
  have named : ∀ path ∈ rootedShell.session.history.file, path.text.contains '\x00' = false := by
    rintro path ⟨rfl⟩
    decide
  have stays : ∀ path ∈ rootedShell.session.history.file, Path.isAbsolute path.root = true ∨
      ∀ entry ∈ entered rootedLines (recording rootedShell), Housed path entry.before.world.files := by
    rintro path ⟨rfl⟩
    exact .inl rfl
  exact ⟨rooted_prepared, named, stays, typed_like_read rooted_prepared named stays⟩

def relativeFile : Path := ⟨[], ["h", "f"]⟩

def relativeShell : Shell :=
  { bareShell with
    world := { files := twoFolders [] [] }
    session := {
      environment := [("HOME", "/")], current := "/"
      history := { bareShell.session.history with file := some relativeFile } } }

def relativeLines : List Text := ["cd /s", "cd /s/h"]

theorem enters_sh : Enters "cd /s/h" "/s/h" where
  read := ofLine_of_some (by decide +kernel)
  filled := by decide
  printable := List.all_eq_true.mp (by decide)
  expands _ _ := rfl
  forward := by decide
  named := by decide

private theorem opens_s (bytes : Bytes) : Opens relativeFile bytes "/s" (twoFolders [] []) (twoFolders [] [])
    (twoFolders [(["h", "f"], .file bytes .plain)] [])
    (twoFolders [(["h", "f"], .file bytes .plain)] ["s"]) where
  makes := rfl
  writes := rfl
  enters := rfl

private theorem opens_sh (first bytes : Bytes) : Opens relativeFile bytes "/s/h"
    (twoFolders [(["h", "f"], .file first .plain)] ["s"])
    (twoFolders [(["h", "f"], .file first .plain), (["s", "h"], .folder false)] ["s"])
    (twoFolders [(["h", "f"], .file first .plain), (["s", "h"], .folder false),
      (["s", "h", "f"], .file bytes .plain)] ["s"])
    (twoFolders [(["h", "f"], .file first .plain), (["s", "h"], .folder false),
      (["s", "h", "f"], .file bytes .plain)] ["s", "h"]) where
  makes := rfl
  writes := rfl
  enters := rfl

private theorem relative_prepared : Prepared relativeLines relativeShell where
  printable := printable_of_all (by decide)
  fresh := ⟨rfl, rfl⟩
  table := rfl
  housed := by
    have found : (twoFolders [] []).find "h" = .ok (["h"], .folder false) := rfl
    rintro path ⟨rfl⟩
    exact ⟨["h"], false, found⟩
  prompt := ⟨_, rfl⟩
  typed := draws_record _ rfl
  read := draws_record _ rfl
  plain := by
    refine plain_of_lines ?_
    rintro line (_ | ⟨_, _ | ⟨_, ⟨⟩⟩⟩)
    · exact plain_single enters_s.commands (by decide) (by decide)
    · exact plain_single enters_sh.commands (by decide) (by decide)

/-- The second line enters a folder that was made when it was recorded. -/
theorem relative_typed :
    ∃ after, (runTerminal (strokes relativeLines)).on relativeShell = (.ok 0, after) := by
  obtain ⟨started, begun, refreshed⟩ := on_start (show Keeping relativeShell from ⟨[], rfl⟩) rfl
  have awaiting : Awaiting { file := some relativeFile } (twoFolders [] []) [] started :=
    refreshed.awaiting ⟨rfl, rfl, rfl, rfl, rfl⟩
  obtain ⟨middle, time, bytes, first, awaiting, table, keeping, runs, -⟩ :=
    enters_s.typed awaiting (by rw [refreshed.session]; rfl) refreshed.keeping
      (by rw [refreshed.session]; rfl) rfl (by decide)
      (by decide) opens_s (("cd /s/h" : Text).map (fun c => .chars [c]) ++ .chars ['\r'] :: [.closed])
  obtain ⟨last, time, bytes, second, awaiting, table, keeping, runs, code⟩ :=
    enters_sh.typed awaiting table keeping runs rfl (by decide) (by rfl) (opens_sh bytes) [.closed]
  have typed : strokes relativeLines =
      ("cd /s" : Text).map (fun c => .chars [c]) ++ .chars ['\r'] ::
        (("cd /s/h" : Text).map (fun c => .chars [c]) ++ .chars ['\r'] :: [.closed]) := rfl
  have received : (receiveAll (strokes relativeLines)).on started = (.ok ⟨⟩, last) := by
    rw [typed, first, second]
    simp only [receiveAll, receive, on_bind, on_get, runs, if_true, on_pure]
    rfl
  obtain ⟨after, ran, -⟩ := on_runTerminal begun received keeping
  exact ⟨after, by rw [ran, code]⟩

private theorem relative_read :
    ∃ after, (runLines (relativeLines.map (· ++ ['\n']))).on relativeShell = (.ok 1, after) := by
  have entered : (twoFolders [] []).enter "/s" = .ok (twoFolders [] ["s"]) := rfl
  have refused : (twoFolders [] ["s"]).enter "/s/h" = .error .notFound := rfl
  have changed : (changeFolder ["/s"] "/s").on relativeShell = (.ok (.status 0), _) :=
    on_changeFolder_entered enters_s.named entered ["/s"]
  obtain ⟨there, first, files, runs, keeping⟩ : ∃ there, (execute "cd /s").on relativeShell = (.ok 0, there) ∧
      there.world.files = twoFolders [] ["s"] ∧ there.session.running = true ∧ Keeping there :=
    ⟨_, enters_s.on_execute rfl changed, rfl, rfl, [], rfl⟩
  rw [← files] at refused
  obtain ⟨notices, unchanged⟩ := on_changeFolder_refused enters_sh.named refused keeping ["/s/h"]
  have second := enters_sh.on_execute runs unchanged
  have lines : relativeLines.map (· ++ ['\n']) =
      [("cd /s" : Text) ++ ['\n'], ("cd /s/h" : Text) ++ ['\n']] := rfl
  rw [lines, on_runLines (no_break enters_s.printable) rfl first,
    on_runLines (no_break enters_sh.printable) runs second]
  exact ⟨_, rfl⟩

/-- A shell whose history is kept in a file that no file can be. -/
def unnamedShell : Shell :=
  { bareShell with
    session := {
      environment := [("HOME", "/")], current := "/"
      history := { bareShell.session.history with file := some ⟨"/", [['\x00']]⟩ } } }

theorem unnamed_prepared : Prepared ["exit 3"] unnamedShell where
  printable := printable_of_all (by decide)
  fresh := ⟨rfl, rfl⟩
  table := rfl
  housed := by
    rintro path ⟨rfl⟩
    exact ⟨[], false, find_root _⟩
  prompt := ⟨_, rfl⟩
  typed := draws_record _ rfl
  read := draws_record _ rfl
  plain := by
    have commands : commandsOf "exit 3" = [⟨"exit", ["3"], []⟩] := by decide +kernel
    refine plain_of_lines ?_
    rintro line (_ | ⟨_, ⟨⟩⟩)
    exact plain_single commands (by decide) (by decide)

/-- The line that is typed is never carried out, because it cannot be recorded. -/
theorem unnamed_typed :
    ∃ after, (runTerminal (strokes ["exit 3"])).on unnamedShell = (.ok 0, after) := by
  have keeping : Keeping unnamedShell := ⟨[], rfl⟩
  have alike : Alike {} unnamedShell unnamedShell := alike_self rfl keeping
  obtain ⟨started, begun, refreshed⟩ := on_start keeping rfl
  have awaiting : Awaiting unnamedShell.session.history {} [] started :=
    refreshed.awaiting ⟨rfl, rfl, rfl, rfl, rfl⟩
  obtain ⟨middle, brought, alike, awaiting⟩ :=
    types (unnamed_prepared.printable "exit 3" List.mem_cons_self) (refreshed.alike alike) awaiting rfl
      (.chars ['\r'] :: [.closed])
  obtain ⟨core, -, -, ⟨table, keeping⟩, -⟩ := alike
  have runs : middle.session.running = true := congrArg Core.running core
  have code : middle.session.lastCode = 0 := congrArg Core.lastCode core
  obtain ⟨last, took, drawn⟩ := on_enterKey_refused awaiting table keeping rfl
    (run_add_unnamed rfl (by decide) (by decide) ⟨[], false, find_root _⟩)
  have received : (receiveAll (strokes ["exit 3"])).on started = (.ok ⟨⟩, last) := by
    have typed : strokes ["exit 3"] =
        ("exit 3" : Text).map (fun c => .chars [c]) ++ .chars ['\r'] :: [.closed] := rfl
    rw [typed, brought, on_receiveAll runs took]
    simp only [receiveAll, receive, on_bind, on_get, drawn.session, runs, if_true, on_pure]
    rfl
  obtain ⟨after, ran, -⟩ := on_runTerminal begun received drawn.keeping
  exact ⟨after, by rw [ran, drawn.session, code]⟩

private theorem unnamed_read :
    ∃ after, (runLines ((["exit 3"] : List Text).map (· ++ ['\n']))).on unnamedShell = (.ok 3, after) := by
  have read : Job.ofLine "exit 3" = .ok ⟨[⟨⟨"exit", ["3"], []⟩, [], false⟩], []⟩ :=
    ofLine_of_some (by decide +kernel)
  have ran : (runCommand ⟨"exit", ["3"], []⟩).on unnamedShell = (.ok 3, _) := rfl
  have carried := on_execute_single read (by decide) rfl ran
  have lines : (["exit 3"] : List Text).map (· ++ ['\n']) = [("exit 3" : Text) ++ ['\n']] := rfl
  have printable := unnamed_prepared.printable "exit 3" List.mem_cons_self
  rw [lines, on_runLines (no_break printable) rfl carried]
  exact ⟨_, rfl⟩

private theorem not_sameRun {first second : Except Fault Int × Shell} {code code' : Int}
    (left : ∃ after, first = (.ok code, after)) (right : ∃ after, second = (.ok code', after))
    (other : code ≠ code') : ¬ SameRun first second := by
  obtain ⟨-, rfl⟩ := left
  obtain ⟨-, rfl⟩ := right
  rintro ⟨-, -, status, ⟨rfl⟩, ⟨rfl⟩⟩
  exact other rfl

/-- The file of the history can make a difference, if its folder is named from the current one, and
if the file cannot be named. -/
theorem typed_unlike_read :
    (Prepared relativeLines relativeShell ∧
      ¬ SameRun ((runTerminal (strokes relativeLines)).on relativeShell)
        ((runLines (relativeLines.map (· ++ ['\n']))).on relativeShell)) ∧
    (Prepared ["exit 3"] unnamedShell ∧
      ¬ SameRun ((runTerminal (strokes ["exit 3"])).on unnamedShell)
        ((runLines ((["exit 3"] : List Text).map (· ++ ['\n']))).on unnamedShell)) :=
  ⟨⟨relative_prepared, not_sameRun relative_typed relative_read (by decide)⟩,
    unnamed_prepared, not_sameRun unnamed_typed unnamed_read (by decide)⟩

end Differences

end CommandShell.Proofs.TypedLines
