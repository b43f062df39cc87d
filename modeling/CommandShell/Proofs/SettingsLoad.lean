import CommandShell.Settings
import CommandShell.Proofs.FileReads
import CommandShell.Proofs.FolderWalks
import CommandShell.Proofs.TableKeys
import CommandShell.Proofs.Utf8Text

/-! Loading the settings file. A load that is finished replaces the settings that the file has values
for and leaves the others, and loading once more changes nothing. A file that is not there or holds no
JSON changes nothing. Some damaged files break the load off, and keywords that cannot be in a set do so
half way. -/

namespace CommandShell.Proofs.SettingsLoad
open ActSteps FileReads FolderWalks TableKeys Utf8Text

inductive Setting
  | welcomeMessage
  | showBanner
  | logLevel
  | historyLimit
  | programSuffixes
  | scriptSuffixes
  | interpreter
  | keywords
  | abbreviations
  | pollTimeout
  | pagerRows
  | promptStyles
  | panelStyles
  | highlighting
  | highlightStyles
  | manualTimeout
  deriving DecidableEq

inductive Holding
  | value (value : Json)
  | items (items : List Json)
  | fields (fields : Table Json)
  | panels (panels : Table PanelChoice)

/-- How a value of the file comes into a setting. -/
inductive Use
  | whole
  | list
  | filledList
  | set
  | record
  | laidOver

/-- What a value makes of what a setting holds. A value of a kind that the setting does not take makes
nothing of it. -/
def Use.take? : Use → Holding → Json → Option Holding
  | whole, _, value => some (.value value)
  | list, _, value => value.list?.map .items
  | filledList, _, value => (value.list?.filter (!·.isEmpty)).map .items
  | set, _, value => (value.list?.bind fun items => (Settings.distinct items).toOption).map .items
  | record, _, value => value.record?.map .fields
  | laidOver, .fields old, value => value.record?.map fun fields => .fields (old.overlay fields)
  | laidOver, .panels old, value =>
    value.record?.map fun fields => .panels (old.overlay (fields.map fun (name, value) => (name, .given value)))
  | laidOver, _, _ => none

theorem Use.take?_again {use : Use} {old new : Holding} {value : Json} (taken : use.take? old value = some new) :
    use.take? new value = some new := by
  cases use with
  | whole | list | filledList | set | record => exact taken
  | laidOver =>
    cases old with
    | value | items => cases taken
    | fields below =>
      obtain ⟨fields, record, rfl⟩ := Option.map_eq_some_iff.mp taken
      simp only [take?, record, Option.map_some, overlay_overlay]
    | panels below =>
      obtain ⟨fields, record, rfl⟩ := Option.map_eq_some_iff.mp taken
      simp only [take?, record, Option.map_some, overlay_overlay]

inductive Stage
  | before
  | keywords
  | behind
  deriving DecidableEq

namespace Setting

def path : Setting → List Text
  | welcomeMessage => ["general", "welcome_message"]
  | showBanner => ["general", "show_startup_banner"]
  | logLevel => ["general", "log_level"]
  | historyLimit => ["shell", "history_max_entries"]
  | programSuffixes => ["shell", "executable_suffixes"]
  | scriptSuffixes => ["shell", "script_suffixes"]
  | interpreter => ["shell", "command_interpreter"]
  | keywords => ["shell", "keywords"]
  | abbreviations => ["shell", "default_abbreviations"]
  | pollTimeout => ["ui", "input_poll_timeout"]
  | pagerRows => ["ui", "pager_max_visible"]
  | promptStyles => ["ui", "prompt_styles"]
  | panelStyles => ["ui", "panel_styles"]
  | highlighting => ["ui", "highlighter_enabled"]
  | highlightStyles => ["ui", "highlight_styles"]
  | manualTimeout => ["completion", "man_page_timeout"]

def use : Setting → Use
  | programSuffixes | scriptSuffixes => .list
  | interpreter => .filledList
  | keywords => .set
  | abbreviations => .record
  | promptStyles | panelStyles | highlightStyles => .laidOver
  | _ => .whole

def of : Setting → Settings → Holding
  | welcomeMessage, settings => .value settings.welcomeMessage
  | showBanner, settings => .value settings.showBanner
  | logLevel, settings => .value settings.logLevel
  | historyLimit, settings => .value settings.historyLimit
  | programSuffixes, settings => .items settings.programSuffixes
  | scriptSuffixes, settings => .items settings.scriptSuffixes
  | interpreter, settings => .items settings.interpreter
  | keywords, settings => .items settings.keywords
  | abbreviations, settings => .fields settings.abbreviations
  | pollTimeout, settings => .value settings.pollTimeout
  | pagerRows, settings => .value settings.pagerRows
  | promptStyles, settings => .fields settings.promptStyles
  | panelStyles, settings => .panels settings.panelStyles
  | highlighting, settings => .value settings.highlighting
  | highlightStyles, settings => .fields settings.highlightStyles
  | manualTimeout, settings => .value settings.manualTimeout

def stage : Setting → Stage
  | welcomeMessage | showBanner | logLevel | historyLimit | programSuffixes | scriptSuffixes
  | interpreter => .before
  | keywords => .keywords
  | _ => .behind

/-- What the value of a file makes of a setting, if it has a value for it that the setting takes. -/
def taken? (setting : Setting) (settings : Settings) (data : Json) : Option Holding :=
  (data.at? setting.path).bind (setting.use.take? (setting.of settings))

private theorem taken?_of {setting : Setting} {settings other : Settings}
    (same : setting.of settings = setting.of other) (data : Json) :
    setting.taken? settings data = setting.taken? other data := by
  rw [taken?, same]
  rfl

end Setting

private theorem settings_ext {settings other : Settings} (home : settings.home = other.home)
    (same : ∀ setting : Setting, setting.of settings = setting.of other) : settings = other := by
  have welcome := same .welcomeMessage
  have banner := same .showBanner
  have level := same .logLevel
  have limit := same .historyLimit
  have programs := same .programSuffixes
  have scripts := same .scriptSuffixes
  have interpreter := same .interpreter
  have keywords := same .keywords
  have abbreviations := same .abbreviations
  have timeout := same .pollTimeout
  have rows := same .pagerRows
  have prompts := same .promptStyles
  have panels := same .panelStyles
  have highlighting := same .highlighting
  have highlights := same .highlightStyles
  have manual := same .manualTimeout
  cases settings
  cases other
  simp_all [Setting.of]

section Uses

variable (found : Option Json)

private theorem use_whole (old : Json) :
    Holding.value (found.getD old) = (found.bind (Use.whole.take? (.value old))).getD (.value old) := by
  cases found <;> rfl

private theorem use_list (old : List Json) :
    Holding.items ((found.bind Json.list?).getD old) =
      (found.bind (Use.list.take? (.items old))).getD (.items old) := by
  cases found with
  | none => rfl
  | some value => cases value <;> rfl

private theorem use_filledList (old : List Json) :
    let items := (found.bind Json.list?).getD old
    Holding.items (if items.isEmpty then old else items) =
      (found.bind (Use.filledList.take? (.items old))).getD (.items old) := by
  cases found with
  | none => cases old <;> rfl
  | some value =>
    cases value with
    | list items => cases items <;> rfl
    | _ => cases old <;> rfl

private theorem use_record (old : Table Json) :
    Holding.fields ((found.bind Json.record?).getD old) =
      (found.bind (Use.record.take? (.fields old))).getD (.fields old) := by
  cases found with
  | none => rfl
  | some value => cases value <;> rfl

private theorem use_laidOver (old : Table Json) :
    Holding.fields (old.overlay ((found.bind Json.record?).getD [])) =
      (found.bind (Use.laidOver.take? (.fields old))).getD (.fields old) := by
  cases found with
  | none => rfl
  | some value => cases value <;> rfl

private theorem use_panels (old : Table PanelChoice) :
    Holding.panels (old.overlay (((found.bind Json.record?).getD []).map
        fun (name, value) => (name, .given value))) =
      (found.bind (Use.laidOver.take? (.panels old))).getD (.panels old) := by
  cases found with
  | none => rfl
  | some value => cases value <;> rfl

end Uses

variable {settings after : Settings} {data : Json}

private theorem of_takeGeneral (setting : Setting) (settings : Settings) (data : Json) :
    setting.of (settings.takeGeneral data) =
      if setting.stage = .before then (setting.taken? settings data).getD (setting.of settings)
      else setting.of settings := by
  cases setting with
  | welcomeMessage | showBanner | logLevel | historyLimit => exact use_whole _ _
  | programSuffixes | scriptSuffixes => exact use_list _ _
  | interpreter => exact use_filledList _ _
  | _ => rfl

private theorem of_takeRest (setting : Setting) (settings : Settings) (data : Json) :
    setting.of (settings.takeRest data) =
      if setting.stage = .behind then (setting.taken? settings data).getD (setting.of settings)
      else setting.of settings := by
  cases setting with
  | pollTimeout | pagerRows | highlighting | manualTimeout => exact use_whole _ _
  | abbreviations => exact use_record _ _
  | promptStyles | highlightStyles => exact use_laidOver _ _
  | panelStyles => exact use_panels _ _
  | _ => rfl

/-- The keywords in a file cannot be in a set: there is a list or a record among them. -/
def Unhashable (data : Json) : Prop :=
  ∃ keywords, data.at? Setting.keywords.path = some (.list keywords) ∧
    ∃ item ∈ keywords, item.list?.isSome ∨ item.record?.isSome

private theorem distinct_error (items : List Json) :
    (∃ fault, Settings.distinct items = .error fault) ↔
      ∃ item ∈ items, item.list?.isSome ∨ item.record?.isSome := by
  induction items with
  | nil => simp [Settings.distinct]
  | cons item rest ih =>
    by_cases nested : item.list?.isSome ∨ item.record?.isSome
    · refine iff_of_true ?_ ⟨item, List.mem_cons_self, nested⟩
      cases item with
      | list items => exact ⟨_, rfl⟩
      | record fields => exact ⟨_, rfl⟩
      | _ => exact absurd nested (by simp [Json.list?, Json.record?])
    · have step : Settings.distinct (item :: rest) = (Settings.distinct rest).map
          fun rest => item :: rest.filter fun other => !other.isAmong [item] := by
        cases item with
        | list items => exact absurd (.inl rfl) nested
        | record fields => exact absurd (.inr rfl) nested
        | _ =>
          rw [Settings.distinct]
          · cases Settings.distinct rest <;> rfl
          · nofun
          · nofun
      rw [List.exists_mem_cons_iff, or_iff_right nested, ← ih, step]
      cases Settings.distinct rest <;> simp [Except.map]

private theorem of_withKeywords {setting : Setting} (other : setting ≠ .keywords) (keywords : List Json)
    (settings : Settings) : setting.of { settings with keywords } = setting.of settings := by
  cases setting with
  | keywords => exact absurd rfl other
  | _ => rfl

/-- What is left to take when all but the settings behind the keywords are taken. -/
theorem of_finished {middle : Settings}
    (front : ∀ setting : Setting, setting.of middle = if setting.stage = .behind then setting.of settings
      else (setting.taken? settings data).getD (setting.of settings)) (setting : Setting) :
    setting.of (middle.takeRest data) = (setting.taken? settings data).getD (setting.of settings) := by
  rw [of_takeRest]
  split
  next behind =>
    have kept := (front setting).trans (if_pos behind)
    rw [Setting.taken?_of kept, kept]
  next front' => rw [front, if_neg front']

def listed? (data : Json) : Option (List Json) := (data.at? Setting.keywords.path).bind Json.list?

private theorem unhashable_iff : Unhashable data ↔
    ∃ items, listed? data = some items ∧ ∃ item ∈ items, item.list?.isSome ∨ item.record?.isSome := by
  unfold Unhashable listed?
  cases data.at? Setting.keywords.path with
  | none => exact iff_of_false nofun nofun
  | some value =>
    cases value with
    | list items => simp [Json.list?]
    | _ => exact iff_of_false nofun nofun

/-- The keywords as they stand in a set, if the file lists any that can. -/
theorem taken?_keywords (settings : Settings) (data : Json) :
    Setting.keywords.taken? settings data =
      ((listed? data).bind fun items => (Settings.distinct items).toOption).map .items := by
  unfold Setting.taken? listed?
  cases data.at? Setting.keywords.path <;> rfl

private theorem take_eq (settings : Settings) (data : Json) :
    settings.take data = match listed? data with
      | none => ((settings.takeGeneral data).takeRest data, .ok ())
      | some items =>
        match Settings.distinct items with
        | .ok keywords => ({ settings.takeGeneral data with keywords }.takeRest data, .ok ())
        | .error fault => (settings.takeGeneral data, .error fault) := rfl

/-- The value of a file makes of the settings what it makes of each of them, unless the keywords break
the work off: then only those in front of them are taken. -/
theorem take_account (settings : Settings) (data : Json) :
    let ran := settings.take data
    ran.1.home = settings.home ∧
      match ran.2 with
      | .ok () => ¬ Unhashable data ∧
        ∀ setting : Setting, setting.of ran.1 = (setting.taken? settings data).getD (setting.of settings)
      | .error _ => Unhashable data ∧
        ∀ setting : Setting, setting.of ran.1 = if setting.stage = .before then
          (setting.taken? settings data).getD (setting.of settings) else setting.of settings := by
  have general (setting : Setting) := of_takeGeneral setting settings data
  have keywords := taken?_keywords settings data
  rw [take_eq, unhashable_iff]
  cases found : listed? data with
  | none =>
    rw [found] at keywords
    refine ⟨rfl, nofun, of_finished fun setting => ?_⟩
    rw [general]
    cases setting with
    | keywords => rw [keywords]; rfl
    | _ => rfl
  | some items =>
    have nested := distinct_error items
    rw [found] at keywords
    dsimp only
    cases distinct : Settings.distinct items with
    | ok kept =>
      rw [distinct] at nested
      refine ⟨rfl, ?_, of_finished fun setting => ?_⟩
      · rintro ⟨_, ⟨⟩, bad⟩
        obtain ⟨fault, failed⟩ := nested.mpr bad
        cases failed
      · cases setting with
        | keywords => rw [keywords, Option.bind_some, distinct]; rfl
        | _ => exact (of_withKeywords (by decide) kept _).trans (general _)
    | error fault => exact ⟨rfl, ⟨items, rfl, nested.mp ⟨fault, distinct⟩⟩, general⟩

private theorem take_again (taken : settings.take data = (after, .ok ())) : after.take data =
    (after, .ok ()) := by
  have first := take_account settings data
  have second := take_account after data
  rw [taken] at first
  obtain ⟨-, hashable, held⟩ := first
  generalize after.take data = ran at second ⊢
  obtain ⟨last, result⟩ := ran
  obtain ⟨home, told⟩ := second
  cases result with
  | error fault => exact absurd told.1 hashable
  | ok =>
    refine congrArg (·, Except.ok ()) (settings_ext home fun setting => ?_)
    rw [told.2 setting]
    cases found : setting.taken? settings data with
    | none =>
      have same : setting.of after = setting.of settings := by rw [held, found, Option.getD_none]
      rw [Setting.taken?_of same, found, Option.getD_none]
    | some new =>
      have same : setting.of after = new := by rw [held, found, Option.getD_some]
      obtain ⟨value, there, takes⟩ := Option.bind_eq_some_iff.mp found
      have again : setting.taken? after data = some new := by
        rw [Setting.taken?, there, same]
        exact Use.take?_again takes
      rw [again, Option.getD_some, same]

def Holds (found : Finding) (data : Json) : Prop :=
  ∃ bytes text, found = .content bytes ∧ Utf8.decode? bytes = some text ∧
    Json.read (Text.plainBreaks text) = .ok data

/-- There is no file that can be opened, or it is a text that is no JSON. -/
def Useless (found : Finding) : Prop :=
  found = .nothing ∨ ∃ bytes text kind left, found = .content bytes ∧ Utf8.decode? bytes = some text ∧
    Json.read (Text.plainBreaks text) = .error (.mistake kind left)

/-- The shell is refused to look for the file, or the file is no text, or goes beyond what can be read
of JSON. -/
def Stopping (found : Finding) : Prop :=
  (∃ problem, found = .refused problem) ∨ ∃ bytes, found = .content bytes ∧
    (Utf8.decode? bytes = none ∨ ∃ text, Utf8.decode? bytes = some text ∧
      (Json.read (Text.plainBreaks text) = .error .digits ∨
        Json.read (Text.plainBreaks text) = .error .nesting))

/-- The value that a finding at a path gives, or the fault of looking for it. -/
def valueOf (path : Text) : Finding → Except Fault (Option Json)
  | .refused problem => .error (.file problem path)
  | .nothing => .ok none
  | .content bytes =>
    match Utf8.decode? bytes with
    | none => .error .undecodable
    | some text =>
      match Json.read (Text.plainBreaks text) with
      | .ok value => .ok (some value)
      | .error (.mistake _ _) => .ok none
      | .error .digits => .error .tooManyDigits
      | .error .nesting => .error .nesting

private theorem valueOf_cases (path : Text) (found : Finding) :
    match valueOf path found with
    | .ok (some data) => Holds found data
    | .ok none => Useless found
    | .error _ => Stopping found := by
  cases found with
  | refused problem => exact .inl ⟨problem, rfl⟩
  | nothing => exact .inl rfl
  | content bytes =>
    unfold valueOf
    dsimp only
    cases decoded : Utf8.decode? bytes with
    | none => exact .inr ⟨bytes, rfl, .inl decoded⟩
    | some text =>
      dsimp only
      cases read : Json.read (Text.plainBreaks text) with
      | ok value => exact ⟨bytes, text, rfl, decoded, read⟩
      | error trouble =>
        cases trouble with
        | mistake kind left => exact .inr ⟨bytes, text, kind, left, rfl, decoded, read⟩
        | digits => exact .inr ⟨bytes, rfl, .inr ⟨text, decoded, .inl read⟩⟩
        | nesting => exact .inr ⟨bytes, rfl, .inr ⟨text, decoded, .inr read⟩⟩

theorem on_readFile (settings : Settings) (world : World) :
    settings.readFile.on world =
      (valueOf settings.file.text (finding world.files settings.file.text), world) := by
  unfold Settings.readFile finding
  generalize settings.file.text = path
  cases named : path.contains '\x00' with
  | true =>
    rw [if_pos rfl, on_bind, on_occupied_null named]
    rfl
  | false =>
    rw [if_neg Bool.false_ne_true, on_bind, on_occupied named]
    cases asked : world.files.occupied path with
    | error problem => rfl
    | ok there =>
      cases there with
      | false => rfl
      | true =>
        dsimp only [Except.mapError]
        simp only [if_true, on_bind, on_attempt, on_readText named]
        cases world.files.read path with
        | error problem => rfl
        | ok bytes =>
          dsimp only [valueOf]
          cases Utf8.decode? bytes with
          | none => rfl
          | some text =>
            dsimp only
            cases Json.read (Text.plainBreaks text) with
            | ok value => rfl
            | error trouble => cases trouble <;> rfl

theorem run_load (settings : Settings) (world : World) :
    settings.load.run world =
      (match valueOf settings.file.text (finding world.files settings.file.text) with
        | .error fault => (settings, .error fault)
        | .ok none => (settings, .ok false)
        | .ok (some data) => ((settings.take data).1, (settings.take data).2.map fun _ => true), world) := by
  have ran : settings.readFile.run.run world = _ := on_readFile settings world
  unfold Settings.load
  rw [StateT.run_bind, ran]
  generalize valueOf settings.file.text (finding world.files settings.file.text) = found
  cases found with
  | error fault => rfl
  | ok value => cases value <;> rfl

private theorem file_of_home {settings other : Settings} (home : settings.home = other.home) :
    settings.file = other.file := by
  unfold Settings.file Settings.folder
  rw [home]

/-- What becomes of the settings when the file is loaded. A load that ends well leaves every setting for
which the file has no value, or none of a kind that it takes, and loading again changes nothing. A load
that finds nothing to load changes nothing. The load breaks off where the file stops it, and then nothing
is changed, or at the keywords, and then the settings in front of them are changed already. -/
theorem load_account (settings : Settings) (world : World) :
    let found := finding world.files settings.file.text
    let ran := settings.load.run world
    ran.2 = world ∧ ran.1.1.home = settings.home ∧ match ran.1.2 with
      | .ok true => ran.1.1.load.run world = ran ∧ ∃ data, Holds found data ∧ ¬ Unhashable data ∧
        ∀ setting : Setting, setting.of ran.1.1 = (setting.taken? settings data).getD (setting.of settings)
      | .ok false => Useless found ∧ ran.1.1 = settings
      | .error _ => Stopping found ∧ ran.1.1 = settings ∨ ∃ data, Holds found data ∧ Unhashable data ∧
        ∀ setting : Setting, setting.of ran.1.1 = if setting.stage = .before then
          (setting.taken? settings data).getD (setting.of settings) else setting.of settings := by
  have read := valueOf_cases settings.file.text (finding world.files settings.file.text)
  dsimp only
  rw [run_load settings world]
  cases looked : valueOf settings.file.text (finding world.files settings.file.text) with
  | error fault =>
    rw [looked] at read
    exact ⟨rfl, rfl, .inl ⟨read, rfl⟩⟩
  | ok value =>
    rw [looked] at read
    cases value with
    | none => exact ⟨rfl, rfl, read, rfl⟩
    | some data =>
      have took := take_account settings data
      dsimp only
      cases taken : settings.take data with
      | mk after result =>
        rw [taken] at took
        obtain ⟨home, took⟩ := took
        cases result with
        | error fault => exact ⟨rfl, home, .inr ⟨data, read, took⟩⟩
        | ok =>
          have file : after.file = settings.file := file_of_home home
          refine ⟨rfl, home, ?_, data, read, took⟩
          dsimp only
          rw [run_load, file, looked]
          dsimp only
          rw [take_again taken]

def configured (content : Bytes) : Files :=
  ({} : Files).plant [".wsh", "config.json"] (.file content .plain)

def halfWritten : Text :=
  "\x7b\"general\": \x7b\"welcome_message\": \"hi\"\x7d, \"shell\": \x7b\"keywords\": [[]]\x7d\x7d"

def halfGood : Bytes := Utf8.encode halfWritten

private theorem read_halfWritten : Json.read halfWritten = .ok (.record
    [("general", .record [("welcome_message", "hi")]), ("shell", .record [("keywords", .list [.list []])])]) := by
  rw [Json.read, if_neg (by decide)]
  cbv

private theorem finding_configured (content : Bytes) :
    finding (configured content) "/.wsh/config.json" = .content content := rfl

/-- A byte that belongs to no character breaks the load off. So does a list among the keywords, and then
the message in front of it is changed already. -/
theorem damaged_file_breaks_load :
    let settings : Settings := { home := ⟨"/", []⟩ }
    (settings.load.run { files := configured [0xff] }).1 = (settings, .error .undecodable) ∧
      (settings.load.run { files := configured halfGood }).1 =
        ({ settings with welcomeMessage := "hi" }, .error (.wrongKind "unhashable type: 'list'")) := by
  intro settings
  have place : settings.file.text = "/.wsh/config.json" := rfl
  have broken : valueOf "/.wsh/config.json" (.content [0xff]) = .error .undecodable := rfl
  have half : valueOf "/.wsh/config.json" (.content halfGood) = .ok (some (.record
      [("general", .record [("welcome_message", "hi")]), ("shell", .record [("keywords", .list [.list []])])])) := by
    have ascii : (halfWritten.all fun c => c.toNat < 0x80) = true := by decide
    have decoded : Utf8.decode? halfGood = some halfWritten :=
      decode?_encode fun c inside => of_decide_eq_true (List.all_eq_true.mp ascii c inside)
    rw [valueOf, decoded]
    dsimp only
    rw [show Text.plainBreaks halfWritten = halfWritten from rfl, read_halfWritten]
  constructor
  · rw [run_load, place, finding_configured, broken]
  · rw [run_load, place, finding_configured, half]
    rfl

end CommandShell.Proofs.SettingsLoad
