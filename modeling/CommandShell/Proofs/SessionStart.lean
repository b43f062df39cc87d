import CommandShell.Session
import CommandShell.Proofs.HistoryRuns

/-! How a session starts from its files. It may find nothing at the path of a file, also where it
cannot be read, or be refused to look. What it finds decides whether it starts, and with which entries
and abbreviations. -/

namespace CommandShell.Proofs.SessionStart
open ActSteps FileReads FolderWalks HistoryRecords HistoryRuns

def entriesAt (files : Files) (path : Text) : Except Fault (List Entry) :=
  match finding files path with
  | .refused problem => .error (.file problem path)
  | found => records found.lines

def shownFields (fields : Table Json) : Table Json :=
  fields.map fun (word, expansion) => (word, .text expansion.display)

/-- The abbreviations in the text of a file. A text that is no JSON has none. -/
def fieldsIn (content : Text) : Except Fault (Table Json) :=
  if content.isEmpty then .ok []
  else match Json.read content with
    | .ok value => .ok (shownFields (value.record?.getD []))
    | .error (.mistake _ _) => .ok []
    | .error .digits => .error .tooManyDigits
    | .error .nesting => .error .nesting

def fieldsAt (files : Files) (path : Text) : Except Fault (Table Json) :=
  match finding files path with
  | .refused problem => .error (.file problem path)
  | .nothing => .ok []
  | .content bytes =>
    match Utf8.decode? bytes with
    | none => .error .undecodable
    | some text => fieldsIn (Text.trim (Text.plainBreaks text))

private theorem entriesAt_cases (files : Files) (path : Text) :
    (∃ problem, finding files path = .refused problem ∧ entriesAt files path = .error (.file problem path)) ∨
      (∀ problem, finding files path ≠ .refused problem) ∧
        entriesAt files path = records (finding files path).lines := by
  unfold entriesAt
  cases finding files path with
  | refused problem => exact .inl ⟨problem, rfl, rfl⟩
  | nothing => exact .inr ⟨nofun, rfl⟩
  | content bytes => exact .inr ⟨nofun, rfl⟩

private theorem run_load_entries (store : History) {path : Path} (keeps : store.file = some path)
    (world : World) :
    match entriesAt world.files path.text with
    | .ok entries =>
      ∃ journal, store.load.run world = ((newest store entries, .ok ()), { world with journal })
    | .error fault => (store.load.run world).1.2 = .error fault := by
  obtain ⟨problem, refused, asked⟩ | ⟨found, asked⟩ := entriesAt_cases world.files path.text
  · rw [asked]
    exact run_load_refused store keeps refused
  · rw [asked]
    exact load_of_replay (run_load_found store keeps found)

private theorem on_load_found (abbreviations : Abbreviations) {path : Path}
    (keeps : abbreviations.file = some path) (world : World) :
    match fieldsAt world.files path.text with
    | .ok fields => ∃ count journal, abbreviations.load.on world =
        (.ok ({ abbreviations with table := abbreviations.table.overlay fields }, count), { world with journal })
    | .error fault => (abbreviations.load.on world).1 = .error fault := by
  obtain ⟨file, table⟩ := abbreviations
  obtain rfl : file = some path := keeps
  unfold Abbreviations.load fieldsAt finding
  dsimp only
  cases named : path.text.contains '\x00' with
  | true =>
    rw [if_pos rfl, on_bind, on_occupied_null named]
    exact ⟨0, world.journal, rfl⟩
  | false =>
    rw [if_neg Bool.false_ne_true, on_bind, on_occupied named]
    cases asked : world.files.occupied path.text with
    | error problem => rfl
    | ok there =>
      cases there with
      | false => exact ⟨0, world.journal, rfl⟩
      | true =>
        dsimp only [Except.mapError]
        simp only [if_true, on_bind, Abbreviations.readFile, on_attempt, on_readText named]
        cases world.files.read path.text with
        | error problem => exact ⟨0, _, rfl⟩
        | ok bytes =>
          -- Of all that can be wrong with a content, only a mistake in the JSON is passed over.
          dsimp only
          cases Utf8.decode? bytes with
          | none => rfl
          | some text =>
            dsimp only [fieldsIn]
            generalize Text.trim (Text.plainBreaks text) = content
            cases content.isEmpty with
            | true => exact ⟨_, world.journal, rfl⟩
            | false =>
              simp only [Bool.false_eq_true, if_false]
              cases Json.read content with
              | ok value => exact ⟨_, world.journal, rfl⟩
              | error trouble =>
                cases trouble with
                | mistake kind left => exact ⟨0, _, rfl⟩
                | digits => rfl
                | nesting => rfl

def started (settings : Settings) (limit : Int) (world : World) (entries : List Entry)
    (fields : Table Json) : Session where
  environment := world.environment
  current := world.here
  history := newest (History.ofLimit settings.historyFile limit) entries
  abbreviations :=
    { file := settings.abbreviationFile, table := (Table.ofPairs settings.abbreviations).overlay fields }

/-- A session starts if both of its files can be used, and is the one that they make. -/
theorem on_create (settings : Settings) {limit : Int} (known : settings.historyLimit.whole = .ok limit)
    (world : World) :
    match entriesAt world.files settings.historyFile.text,
      fieldsAt world.files settings.abbreviationFile.text with
    | .ok entries, .ok fields => ∃ journal,
      (Session.create settings).on world = (.ok (started settings limit world entries fields), { world with journal })
    | .error fault, _ | .ok _, .error fault => ((Session.create settings).on world).1 = .error fault := by
  have history := run_load_entries (History.ofLimit settings.historyFile limit) rfl world
  unfold Session.create
  rw [on_bind, on_ofExcept, known]
  dsimp only
  rw [on_bind, on_liftM]
  cases found : entriesAt world.files settings.historyFile.text with
  | error fault =>
    rw [found] at history
    dsimp only at history ⊢
    rw [history]
    rfl
  | ok entries =>
    rw [found] at history
    obtain ⟨journal, loaded⟩ := history
    -- The second file is looked for in the world that the first one left, with the same files in it.
    have table := on_load_found
      { file := settings.abbreviationFile, table := Table.ofPairs settings.abbreviations } rfl
      { world with journal }
    rw [loaded]
    dsimp only
    rw [on_bind, on_ofExcept]
    dsimp only
    rw [on_bind]
    cases read : fieldsAt world.files settings.abbreviationFile.text with
    | error fault =>
      rw [show fieldsAt ({ world with journal } : World).files _ = _ from read] at table
      generalize Abbreviations.load _ = act at table ⊢
      generalize act.on { world with journal } = ran at table ⊢
      obtain ⟨result, after⟩ := ran
      dsimp only at table ⊢
      rw [table]
    | ok fields =>
      rw [show fieldsAt ({ world with journal } : World).files _ = _ from read] at table
      obtain ⟨count, journal', loaded⟩ := table
      rw [loaded]
      exact ⟨journal', rfl⟩

theorem of_create {settings : Settings} {world after : World} {session : Session}
    (created : (Session.create settings).on world = (.ok session, after)) :
    ∃ limit entries fields journal, settings.historyLimit.whole = .ok limit ∧
      entriesAt world.files settings.historyFile.text = .ok entries ∧
      fieldsAt world.files settings.abbreviationFile.text = .ok fields ∧
      session = started settings limit world entries fields ∧ after = { world with journal } := by
  cases known : settings.historyLimit.whole with
  | error fault =>
    rw [Session.create, on_bind, on_ofExcept, known] at created
    cases created
  | ok limit =>
    have made := on_create settings known world
    rw [created] at made
    cases first : entriesAt world.files settings.historyFile.text with
    | error fault =>
      rw [first] at made
      cases made
    | ok entries =>
      rw [first] at made
      cases second : fieldsAt world.files settings.abbreviationFile.text with
      | error fault =>
        rw [second] at made
        cases made
      | ok fields =>
        rw [second] at made
        obtain ⟨journal, same⟩ := made
        cases same
        exact ⟨limit, entries, fields, journal, rfl, rfl, rfl, rfl, rfl⟩

/-- A time that is all digits and still no number: a digit in it has no decimal value, or it has too
many digits. -/
def Unreadable (raw : Text) : Prop :=
  let digits := Text.trim raw
  digits ≠ [] ∧ (∀ c ∈ digits, Text.isDigit c = true) ∧
    ((∃ c ∈ digits, Text.decimalValue? c = none) ∨ Text.digitLimit < digits.length)

private theorem decimals_of_mapM (t : Text) :
    match t.mapM Text.decimalValue? with
    | none => ∃ c ∈ t, Text.decimalValue? c = none
    | some digits => (∀ c ∈ t, Text.decimalValue? c ≠ none) ∧ digits.length = t.length := by
  induction t with
  | nil => exact ⟨nofun, rfl⟩
  | cons c rest ih =>
    rw [List.mapM_cons]
    cases value : Text.decimalValue? c with
    | none => exact ⟨c, List.mem_cons_self, value⟩
    | some digit =>
      cases values : rest.mapM Text.decimalValue? with
      | none =>
        rw [values] at ih
        obtain ⟨other, inside, missing⟩ := ih
        exact ⟨other, List.mem_cons_of_mem c inside, missing⟩
      | some digits =>
        rw [values] at ih
        obtain ⟨decimal, same⟩ := ih
        refine ⟨List.forall_mem_cons.mpr ⟨by rw [value]; nofun, decimal⟩, ?_⟩
        exact congrArg (· + 1) same

private theorem natural?_eq_none {t : Text} (filled : t ≠ []) (digits : ∀ c ∈ t, Text.isDigit c = true) :
    Text.natural? t = none ↔
      (∃ c ∈ t, Text.decimalValue? c = none) ∨ Text.digitLimit < t.length := by
  -- A number may be grouped by underscores, but these are no digits.
  have no_sign : '_' ∉ t := by
    intro inside
    have digit := digits '_' inside
    revert digit
    decide
  have decimals := decimals_of_mapM t
  rw [Text.natural?, digits?_run filled no_sign]
  cases values : t.mapM Text.decimalValue? with
  | none =>
    rw [values] at decimals
    exact iff_of_true rfl (.inl decimals)
  | some digits =>
    rw [values] at decimals
    obtain ⟨decimal, same⟩ := decimals
    have all : ¬ ∃ c ∈ t, Text.decimalValue? c = none := by
      rintro ⟨c, inside, missing⟩
      exact decimal c inside missing
    simp only [same, all, false_or]
    split
    next short => exact iff_of_false (Option.some_ne_none _) (Nat.not_lt.mpr short)
    next long => exact iff_of_true rfl (Nat.not_le.mp long)

private theorem timeOf_error (raw : Text) :
    (∃ fault, History.timeOf raw = .error fault) ↔ Unreadable raw := by
  unfold History.timeOf Unreadable
  generalize Text.trim raw = digits
  dsimp only
  by_cases all : digits ≠ [] ∧ ∀ c ∈ digits, Text.isDigit c = true
  · have asked : (!digits.isEmpty && digits.all Text.isDigit) = true := by simpa using all
    obtain ⟨filled, digit⟩ := all
    have number := natural?_eq_none filled digit
    rw [if_pos asked]
    cases value : Text.natural? digits with
    | none => exact iff_of_true ⟨_, rfl⟩ ⟨filled, digit, number.mp value⟩
    | some time =>
      refine iff_of_false nofun fun ⟨_, _, bad⟩ => ?_
      cases value.symm.trans (number.mpr bad)
  · have asked : ¬ (!digits.isEmpty && digits.all Text.isDigit) = true := by simpa using all
    rw [if_neg asked]
    exact iff_of_false nofun fun ⟨filled, digit, _⟩ => all ⟨filled, digit⟩

def timeIn (raw : Text) : Int := (History.timeOf raw).toOption.getD 0

def rawBehind : List Text → Option Text
  | [] => none
  | line :: rest =>
    if (Text.dropStart? History.commandMark line).isSome then none
    else match Text.dropStart? History.timeMark line with
      | some raw => some raw
      | none => rawBehind rest

/-- The entries in lines, where every time that is no number counts as zero. -/
def entriesIn : List Text → List Entry
  | [] => []
  | line :: rest =>
    match Text.dropStart? History.commandMark line with
    | none => entriesIn rest
    | some raw => ⟨History.unescape raw, ((rawBehind rest).map timeIn).getD 0⟩ :: entriesIn rest

private theorem timeBehind_eq (lines : List Text) :
    timeBehind lines = match rawBehind lines with
      | none => .ok 0
      | some raw => History.timeOf raw := by
  induction lines with
  | nil => rfl
  | cons line rest ih =>
    rw [timeBehind, rawBehind]
    split
    · rfl
    · cases Text.dropStart? History.timeMark line with
      | none => exact ih
      | some raw => rfl

private theorem timeBehind_cases (lines : List Text) :
    (timeBehind lines = .ok (((rawBehind lines).map timeIn).getD 0) ∧
      ∀ raw, rawBehind lines = some raw → ¬ Unreadable raw) ∨
    ((∃ fault, timeBehind lines = .error fault) ∧ ∃ raw, rawBehind lines = some raw ∧ Unreadable raw) := by
  rw [timeBehind_eq]
  cases rawBehind lines with
  | none => exact .inl ⟨rfl, nofun⟩
  | some raw =>
    have bad := timeOf_error raw
    cases time : History.timeOf raw with
    | error fault => exact .inr ⟨⟨fault, time⟩, raw, rfl, bad.mp ⟨fault, time⟩⟩
    | ok value =>
      have same : timeIn raw = value := by rw [timeIn, time]; rfl
      refine .inl ⟨by simp [time, same], fun other here unreadable => ?_⟩
      obtain rfl := Option.some.inj here
      obtain ⟨fault, refused⟩ := bad.mpr unreadable
      cases time.symm.trans refused

def Timed (lines : List Text) (raw : Text) : Prop :=
  ∃ front command rest, lines = front ++ (History.commandMark ++ command) :: rest ∧
    rawBehind rest = some raw

private theorem timed_cons {line : Text} {rest : List Text} {raw : Text} :
    Timed (line :: rest) raw ↔
      ((Text.dropStart? History.commandMark line).isSome ∧ rawBehind rest = some raw) ∨ Timed rest raw := by
  constructor
  · rintro ⟨front, command, more, same, behind⟩
    cases front with
    | nil =>
      obtain ⟨rfl, rfl⟩ := List.cons.inj same
      exact .inl ⟨by rw [dropStart?_mark]; rfl, behind⟩
    | cons first others =>
      obtain ⟨rfl, rfl⟩ := List.cons.inj same
      exact .inr ⟨others, command, more, rfl, behind⟩
  · rintro (⟨marked, behind⟩ | ⟨front, command, more, rfl, behind⟩)
    · obtain ⟨command, marked⟩ := Option.isSome_iff_exists.mp marked
      obtain rfl := Text.dropStart?_eq_some_iff.mp marked
      exact ⟨[], command, rest, rfl, behind⟩
    · exact ⟨line :: front, command, more, rfl, behind⟩

/-- Lines can be read unless a time in them is unreadable. -/
theorem records_entriesIn (lines : List Text) :
    match records lines with
    | .ok entries => entries = entriesIn lines ∧ ∀ raw, Timed lines raw → ¬ Unreadable raw
    | .error _ => ∃ raw, Timed lines raw ∧ Unreadable raw := by
  induction lines with
  | nil => exact ⟨rfl, fun raw ⟨front, _, _, same, _⟩ => by cases front <;> cases same⟩
  | cons line rest ih =>
    simp only [timed_cons]
    cases marked : Text.dropStart? History.commandMark line with
    | none =>
      rw [records_skip marked, entriesIn, marked]
      simpa using ih
    | some command =>
      rw [records_command marked, entriesIn, marked]
      obtain ⟨time, fine⟩ | ⟨⟨fault, time⟩, raw, behind, bad⟩ := timeBehind_cases rest
      · rw [time]
        cases read : records rest with
        | ok later =>
          rw [read] at ih
          obtain ⟨rfl, others⟩ := ih
          refine ⟨rfl, fun raw timed => ?_⟩
          obtain ⟨_, behind⟩ | later := timed
          · exact fine raw behind
          · exact others raw later
        | error fault =>
          rw [read] at ih
          obtain ⟨raw, later, bad⟩ := ih
          exact ⟨raw, .inr later, bad⟩
      · rw [time]
        exact ⟨raw, .inl ⟨rfl, behind⟩, bad⟩

/-- What is found of the history does not keep a session from starting. -/
def HistoryUsable (found : Finding) : Prop :=
  (∀ problem, found ≠ .refused problem) ∧ ∀ raw, Timed found.lines raw → ¬ Unreadable raw

def AbbreviationsUsable : Finding → Prop
  | .refused _ => False
  | .nothing => True
  | .content bytes => ∃ text, Utf8.decode? bytes = some text ∧
      Json.read (Text.trim (Text.plainBreaks text)) ≠ .error .digits ∧
      Json.read (Text.trim (Text.plainBreaks text)) ≠ .error .nesting

def fieldsOf : Finding → Table Json
  | .content bytes =>
    match Utf8.decode? bytes with
    | none => []
    | some text =>
      match Json.read (Text.trim (Text.plainBreaks text)) with
      | .ok (.record fields) => shownFields fields
      | _ => []
  | _ => []

private theorem entriesAt_eq (files : Files) (path : Text) :
    match entriesAt files path with
    | .ok entries =>
      HistoryUsable (finding files path) ∧ entries = entriesIn (finding files path).lines
    | .error _ => ¬ HistoryUsable (finding files path) := by
  obtain ⟨problem, refused, asked⟩ | ⟨found, asked⟩ := entriesAt_cases files path
  · rw [asked]
    exact fun usable => usable.1 problem refused
  · have read := records_entriesIn (finding files path).lines
    rw [asked]
    cases seen : records (finding files path).lines with
    | ok entries =>
      rw [seen] at read
      exact ⟨⟨found, read.2⟩, read.1⟩
    | error fault =>
      rw [seen] at read
      obtain ⟨raw, timed, bad⟩ := read
      exact fun usable => usable.2 raw timed bad

private theorem fieldsIn_eq (content : Text) :
    match fieldsIn content with
    | .ok fields =>
      (Json.read content ≠ .error .digits ∧ Json.read content ≠ .error .nesting) ∧
        fields = match Json.read content with
          | .ok (.record fields) => shownFields fields
          | _ => []
    | .error _ => Json.read content = .error .digits ∨ Json.read content = .error .nesting := by
  unfold fieldsIn
  cases content with
  | nil => exact ⟨⟨nofun, nofun⟩, rfl⟩
  | cons c rest =>
    simp only [List.isEmpty_cons, Bool.false_eq_true, if_false]
    cases Json.read (c :: rest) with
    | ok value => exact ⟨⟨nofun, nofun⟩, by cases value <;> rfl⟩
    | error trouble =>
      cases trouble with
      | mistake kind left => exact ⟨⟨nofun, nofun⟩, rfl⟩
      | digits => exact .inl rfl
      | nesting => exact .inr rfl

private theorem fieldsAt_eq (files : Files) (path : Text) :
    match fieldsAt files path with
    | .ok fields => AbbreviationsUsable (finding files path) ∧ fields = fieldsOf (finding files path)
    | .error _ => ¬ AbbreviationsUsable (finding files path) := by
  unfold fieldsAt
  cases finding files path with
  | refused problem => exact id
  | nothing => exact ⟨trivial, rfl⟩
  | content bytes =>
    unfold AbbreviationsUsable fieldsOf
    dsimp only
    cases Utf8.decode? bytes with
    | none => exact fun ⟨_, decoded, _⟩ => nomatch decoded
    | some text =>
      have read := fieldsIn_eq (Text.trim (Text.plainBreaks text))
      dsimp only
      cases found : fieldsIn (Text.trim (Text.plainBreaks text)) with
      | ok fields =>
        rw [found] at read
        exact ⟨⟨text, rfl, read.1⟩, read.2⟩
      | error fault =>
        rw [found] at read
        rintro ⟨_, ⟨⟩, no_digits, no_nesting⟩
        exact read.elim no_digits no_nesting

/-- With the settings that it has from the start, a session starts unless a file is refused to be
looked for, a time in the history is unreadable, or the file of the abbreviations is no text or goes
beyond what can be read of JSON. Then it has the entries and abbreviations of the files; what is
damaged in another way counts as none, and a time as zero. -/
theorem create_from_files (home : Path) (world : World) :
    let settings : Settings := { home }
    let history := finding world.files settings.historyFile.text
    let abbreviations := finding world.files settings.abbreviationFile.text
    match (Session.create settings).on world with
    | (.ok session, after) =>
      (HistoryUsable history ∧ AbbreviationsUsable abbreviations) ∧
        session = started settings 1000 world (entriesIn history.lines) (fieldsOf abbreviations) ∧
        ∃ journal, after = { world with journal }
    | (.error _, _) => ¬ (HistoryUsable history ∧ AbbreviationsUsable abbreviations) := by
  intro settings history abbreviations
  have known : settings.historyLimit.whole = .ok 1000 := rfl
  have made := on_create settings known world
  have entries := entriesAt_eq world.files settings.historyFile.text
  have fields := fieldsAt_eq world.files settings.abbreviationFile.text
  generalize (Session.create settings).on world = ran at made ⊢
  obtain ⟨result, after⟩ := ran
  cases first : entriesAt world.files settings.historyFile.text with
  | error fault =>
    rw [first] at made entries
    obtain rfl : result = .error fault := made
    exact fun fine => entries fine.1
  | ok found =>
    rw [first] at made entries
    obtain ⟨sound, rfl⟩ := entries
    cases second : fieldsAt world.files settings.abbreviationFile.text with
    | error fault =>
      rw [second] at made fields
      obtain rfl : result = .error fault := made
      exact fun fine => fields fine.2
    | ok table =>
      rw [second] at made fields
      obtain ⟨fine, rfl⟩ := fields
      obtain ⟨journal, same⟩ := made
      cases same
      exact ⟨⟨sound, fine⟩, rfl, journal, rfl⟩

def recorded (content : Bytes) : Files :=
  ({} : Files).plant [".local", "share", "wsh", "wsh_history"] (.file content .plain)

private theorem finding_recorded (content : Bytes) :
    finding (recorded content) "/.local/share/wsh/wsh_history" = .content content := rfl

/-- A superscript two is a digit, but no number is read from it. -/
theorem superscript_stops_start :
    ((Session.create { home := ⟨"/", []⟩ }).on
      { files := recorded (Utf8.encode "- cmd: ls\n  when: ²\n") }).1 = .error (.notNumber "²") := by
  have read : records (Text.lines (textOf (Utf8.encode "- cmd: ls\n  when: ²\n"))) =
      .error (.notNumber "²") := by decide +kernel
  have time : entriesAt (recorded (Utf8.encode "- cmd: ls\n  when: ²\n")) "/.local/share/wsh/wsh_history" =
      .error (.notNumber "²") := by
    rw [entriesAt, finding_recorded]
    exact read
  have stopped := on_create { home := ⟨"/", []⟩ } rfl
    { files := recorded (Utf8.encode "- cmd: ls\n  when: ²\n") }
  have place : ({ home := ⟨"/", []⟩ } : Settings).historyFile.text = "/.local/share/wsh/wsh_history" := rfl
  rw [place, time] at stopped
  exact stopped

end CommandShell.Proofs.SessionStart
