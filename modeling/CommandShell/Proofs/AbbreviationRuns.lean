import CommandShell.Execute
import CommandShell.Proofs.Frames
import CommandShell.Proofs.JsonTexts
import CommandShell.Proofs.SessionStart

/-! Abbreviations from one session to the next: what calls that change them leave in their file, and
what a session finds there that starts with the same settings. -/

namespace CommandShell.Proofs.AbbreviationRuns
open ActSteps FileReads FolderWalks HistoryRuns JsonTexts SessionStart Shell TableKeys

def saved (table : Table Json) : Bytes := Utf8.encode (Json.record table).indentedAscii

private theorem finding_writable {path : Path} {content : Bytes} {files : Files}
    (held : Writable path content files) :
    finding files path.text = .content content := by
  obtain ⟨place, access, found, opens⟩ := held.found
  exact finding_of_find held.named found opens

theorem shownFields_texts {table : Table Json} (texts : Texts table) : shownFields table = table := by
  induction table with
  | nil => rfl
  | cons pair rest ih =>
    obtain ⟨word, item⟩ := pair
    obtain ⟨⟨t, rfl⟩, others⟩ := List.forall_mem_cons.mp texts
    exact congrArg ((word, .text t) :: ·) (ih others)

/-- The abbreviations that are found in a file are those that were written into it. -/
theorem fieldsAt_saved {path : Path} {files : Files} {table : Table Json} (texts : Texts table)
    (distinct : table.keys.Nodup) (held : Writable path (saved table) files) :
    fieldsAt files path.text = .ok table := by
  obtain ⟨decoded, trimmed⟩ := trim_written texts
  rw [fieldsAt, finding_writable held]
  simp only [saved, decoded, trimmed, fieldsIn, isEmpty_indentedAscii texts, read_written texts distinct,
    Bool.false_eq_true, if_false, Json.record?, Option.getD_some, shownFields_texts texts]

inductive Call
  | define (word part : Text) (parts : List Text)
  | erase (word : Text)

namespace Call

def arguments : Call → List Text
  | define word part parts => "-a" :: word :: part :: parts
  | erase word => ["-e", word]

def change (table : Table Json) : Call → Table Json
  | define word part parts => table.set word (.text (Text.join " " (part :: parts)))
  | erase word => table.erase word

/-- Whether a call can succeed: only a word with an expansion is erased. -/
def applies (abbreviations : Abbreviations) : Call → Bool
  | define _ _ _ => true
  | erase word => (abbreviations.remove word).2

end Call

def changed (shell : Shell) (table : Table Json) (files : Files) : Shell :=
  { shell with
    world := { shell.world with files }
    session := { shell.session with abbreviations := { shell.session.abbreviations with table } } }

theorem on_save {abbreviations : Abbreviations} {path : Path} {world : World} {files : Files}
    (keeps : abbreviations.file = some path)
    (changes : Changes path (fun _ => saved abbreviations.table) world.files files) :
    abbreviations.save.on world = (.ok ⟨⟩, { world with files }) := by
  simp only [Abbreviations.save, keeps, World.writeText, Files.write]
  rw [on_bind, on_attempt, ← saved, changes.on_change]
  rfl

def keep (abbreviations : Abbreviations) : Act Shell Reply := do
  changeSession fun session => { session with abbreviations }
  inWorld abbreviations.save
  return .status 0

private theorem on_keep {shell : Shell} {path : Path} {table : Table Json} {files : Files}
    (keeps : shell.session.abbreviations.file = some path)
    (changes : Changes path (fun _ => saved table) shell.world.files files) :
    (keep { shell.session.abbreviations with table }).on shell =
      (.ok (.status 0), changed shell table files) := by
  have written : ({ shell.session.abbreviations with table } : Abbreviations).save.on shell.world =
      (.ok ⟨⟩, { shell.world with files }) := on_save keeps changes
  simp only [keep, changeSession, inWorld, on_bind, on_modify, on_part, written]
  rfl

private theorem on_define (shell : Shell) (word part : Text) (parts : List Text) :
    (runBuiltin .abbr (Call.define word part parts).arguments).on shell =
      (keep (shell.session.abbreviations.add word (.text (Text.join " " (part :: parts))))).on shell := by
  simp only [runBuiltin, Call.arguments, runAbbr, on_bind, on_get]
  rfl

def complain (abbreviations : Abbreviations) (word : Text) : Act Shell Reply := do
  changeSession fun session => { session with abbreviations }
  display (.error (Text.join " " ["abbr", "-e", word]) ("abbr: no abbreviation named '" ++ word ++ "'"))
  return .status 1

private theorem on_erase (shell : Shell) (word : Text) :
    (runBuiltin .abbr (Call.erase word).arguments).on shell =
      if (Call.erase word).applies shell.session.abbreviations then
        (keep (shell.session.abbreviations.remove word).1).on shell
      else (complain (shell.session.abbreviations.remove word).1 word).on shell := by
  have taken : (runBuiltin .abbr (Call.erase word).arguments).on shell =
      (do
        changeSession fun session =>
          { session with abbreviations := (shell.session.abbreviations.remove word).1 }
        if (Call.erase word).applies shell.session.abbreviations then
          inWorld (shell.session.abbreviations.remove word).1.save
          return .status 0
        else
          display (.error (Text.join " " ["abbr", "-e", word]) ("abbr: no abbreviation named '" ++ word ++ "'"))
          return .status 1 : Act Shell Reply).on shell := rfl
  rw [taken]
  split
  · rfl
  · rfl

private theorem on_applied {shell : Shell} {path : Path} {call : Call} {files : Files}
    (keeps : shell.session.abbreviations.file = some path)
    (applies : call.applies shell.session.abbreviations = true)
    (changes : Changes path (fun _ => saved (call.change shell.session.abbreviations.table)) shell.world.files
      files) :
    (runBuiltin .abbr call.arguments).on shell =
      (.ok (.status 0), changed shell (call.change shell.session.abbreviations.table) files) := by
  cases call with
  | define word part parts =>
    rw [on_define]
    exact on_keep keeps changes
  | erase word =>
    rw [on_erase, if_pos applies]
    exact on_keep keeps changes

private theorem applies_of_status {shell after : Shell} {call : Call}
    (ran : (runBuiltin .abbr call.arguments).on shell = (.ok (.status 0), after)) :
    call.applies shell.session.abbreviations = true := by
  cases call with
  | define word part parts => rfl
  | erase word =>
    by_contra lacks
    rw [on_erase, if_neg lacks] at ran
    have failed : Yields (complain (shell.session.abbreviations.remove word).1 word) (· = .status 1) :=
      (Yields.anything _).bind fun _ _ => (Yields.anything _).bind fun _ _ => .value rfl
    cases failed shell _ (congrArg Prod.fst ran)

private theorem on_call {shell after : Shell} {path : Path} {stored : Option Bytes} {call : Call}
    (keeps : shell.session.abbreviations.file = some path) (holds : Stored path shell.world.files stored)
    (ran : (runBuiltin .abbr call.arguments).on shell = (.ok (.status 0), after)) :
    ∃ files, after = changed shell (call.change shell.session.abbreviations.table) files ∧
      Writable path (saved (call.change shell.session.abbreviations.table)) files := by
  obtain ⟨files, changes, held⟩ :=
    holds.change fun _ => saved (call.change shell.session.abbreviations.table)
  refine ⟨files, ?_, held⟩
  cases ran.symm.trans (on_applied keeps (applies_of_status ran) changes)
  rfl

inductive Succeed : List Call → Shell → Shell → Prop
  | nothing {shell : Shell} : Succeed [] shell shell
  | call {call : Call} {calls : List Call} {shell between after : Shell}
      (ran : (runBuiltin .abbr call.arguments).on shell = (.ok (.status 0), between))
      (rest : Succeed calls between after) : Succeed (call :: calls) shell after

/-- The file of the abbreviations can be written, and what is read from it over the defaults is the table
with those defaults that it has lost. -/
structure Durable (path : Path) (defaults : Table Json) (shell : Shell) : Prop where
  keeps : shell.session.abbreviations.file = some path
  texts : Texts shell.session.abbreviations.table
  distinct : shell.session.abbreviations.table.keys.Nodup
  stands : ∃ stored, Stored path shell.world.files stored
  reads : ∃ fields, fieldsAt shell.world.files path.text = .ok fields ∧ ∀ word,
    (defaults.overlay fields).get? word =
      (shell.session.abbreviations.table.get? word).or (defaults.get? word)

theorem Durable.call {path : Path} {defaults : Table Json} {shell after : Shell} {call : Call}
    (durable : Durable path defaults shell)
    (ran : (runBuiltin .abbr call.arguments).on shell = (.ok (.status 0), after)) :
    Durable path defaults after := by
  obtain ⟨stored, holds⟩ := durable.stands
  obtain ⟨files, rfl, held⟩ := on_call durable.keeps holds ran
  have texts : Texts (call.change shell.session.abbreviations.table) := by
    cases call with
    | define word part parts => exact durable.texts.set word _
    | erase word => exact durable.texts.erase word
  have distinct : (call.change shell.session.abbreviations.table).keys.Nodup := by
    cases call with
    | define word part parts => exact nodup_set durable.distinct word _
    | erase word => exact nodup_erase durable.distinct word
  -- The whole table was saved, so that the file holds what the session does.
  exact ⟨durable.keeps, texts, distinct, ⟨some _, held⟩, _, fieldsAt_saved texts distinct held,
    fun word => get?_overlay distinct defaults word⟩

theorem Durable.calls {path : Path} {defaults : Table Json} {calls : List Call} {shell after : Shell}
    (durable : Durable path defaults shell) (ran : Succeed calls shell after) :
    Durable path defaults after := by
  induction ran with
  | nothing => exact durable
  | call ran _ ih => exact ih (durable.call ran)

private theorem texts_fieldsIn {content : Text} {fields : Table Json}
    (found : fieldsIn content = .ok fields) :
    Texts fields := by
  unfold fieldsIn at found
  split at found
  · cases found
    nofun
  · split at found
    next value read =>
      obtain rfl := Except.ok.inj found
      intro pair inside
      obtain ⟨source, _, rfl⟩ := List.mem_map.mp inside
      exact ⟨_, rfl⟩
    next =>
      cases found
      nofun
    next => cases found
    next => cases found

private theorem texts_fieldsAt {files : Files} {path : Text} {fields : Table Json}
    (found : fieldsAt files path = .ok fields) : Texts fields := by
  unfold fieldsAt at found
  split at found
  next => cases found
  next =>
    cases found
    nofun
  next =>
    split at found
    · cases found
    · exact texts_fieldsIn found

/-- A session that starts has the abbreviations of its file over those of its settings. -/
theorem durable_start {settings : Settings} {world : World} {shell : Shell} {stored : Option Bytes}
    (texts : Texts settings.abbreviations)
    (started : (Session.create settings).on world = (.ok shell.session, shell.world))
    (holds : Stored settings.abbreviationFile shell.world.files stored) :
    Durable settings.abbreviationFile (Table.ofPairs settings.abbreviations) shell := by
  obtain ⟨limit, entries, fields, journal, -, -, found, made, rest⟩ := of_create started
  have table : shell.session.abbreviations.table =
      (Table.ofPairs settings.abbreviations).overlay fields := by
    rw [made]
    rfl
  have files : shell.world.files = world.files := by rw [rest]
  have defaults : Texts (Table.ofPairs settings.abbreviations) := Texts.overlay nofun texts
  refine ⟨by rw [made]; rfl, ?_, ?_, ⟨stored, holds⟩, fields, by rw [files]; exact found, fun word => ?_⟩
  · rw [table]
    exact defaults.overlay (texts_fieldsAt found)
  · rw [table]
    exact nodup_overlay (nodup_ofPairs _) fields
  · rw [table, get?_overlay_or]

def Keeps (table defaults : Table Json) : Prop := ∀ word, defaults.has word = true → table.has word = true

private theorem or_eq_iff {table defaults : Table Json} :
    (∀ word, (table.get? word).or (defaults.get? word) = table.get? word) ↔ Keeps table defaults := by
  refine forall_congr' fun word => ?_
  unfold Table.has
  cases table.get? word with
  | some value => exact iff_of_true rfl fun _ => rfl
  | none =>
    rw [Option.none_or]
    cases defaults.get? word with
    | none => exact iff_of_true rfl nofun
    | some value => exact iff_of_false nofun fun keeps => nomatch keeps rfl

/-- After calls that succeed, the next session starts with the table that they left and with each
default that was erased. It starts with just that table if no default is missing from it. -/
theorem next_session {settings : Settings} {world next : World} {shell after : Shell}
    {stored : Option Bytes} {calls : List Call} {entries : List Entry}
    (texts : Texts settings.abbreviations)
    (started : (Session.create settings).on world = (.ok shell.session, shell.world))
    (holds : Stored settings.abbreviationFile shell.world.files stored)
    (ran : Succeed calls shell after) (same : next.files = after.world.files)
    (history : entriesAt next.files settings.historyFile.text = .ok entries) :
    let defaults := Table.ofPairs settings.abbreviations
    let table := after.session.abbreviations.table
    ∃ session last, (Session.create settings).on next = (.ok session, last) ∧
      (∀ word, session.abbreviations.table.get? word = (table.get? word).or (defaults.get? word)) ∧
      ((∀ word, session.abbreviations.table.get? word = table.get? word) ↔ Keeps table defaults) := by
  intro defaults table
  obtain ⟨limit, -, -, -, known, -, -, -, -⟩ := of_create started
  obtain ⟨-, -, -, -, fields, read, merged⟩ := (durable_start texts started holds).calls ran
  have made := on_create settings known next
  rw [history, same, read] at made
  obtain ⟨journal, made⟩ := made
  refine ⟨_, _, made, merged, ?_⟩
  rw [← or_eq_iff]
  refine forall_congr' fun word => ?_
  rw [← merged word]
  rfl

def seeded : Settings := { home := ⟨"/", []⟩, abbreviations := [("gs", "git status")] }

def abbreviated (content : Bytes) : Files :=
  ({} : Files).plant [".wsh", "abbreviations.json"] (.file content .plain)

theorem find_folder (content : Bytes) : (abbreviated content).find "/.wsh" = .ok ([".wsh"], .folder false) := rfl

private theorem find_file (content : Bytes) : (abbreviated content).find "/.wsh/abbreviations.json" =
    .ok ([".wsh", "abbreviations.json"], .file content .plain) := rfl

theorem writable_abbreviated (content : Bytes) :
    Writable seeded.abbreviationFile content (abbreviated content) where
  named := rfl
  housed := ⟨[".wsh"], false, find_folder content⟩
  found := ⟨[".wsh", "abbreviations.json"], .plain, find_file content, nofun⟩

theorem entriesAt_abbreviated (content : Bytes) :
    entriesAt (abbreviated content) seeded.historyFile.text = .ok [] := by
  have found : finding (abbreviated content) seeded.historyFile.text = .nothing := rfl
  rw [entriesAt, found]
  rfl

private theorem change_abbreviated (old new : Bytes) :
    (abbreviated old).change "/.wsh/abbreviations.json" (fun _ => new) = .ok (abbreviated new) := rfl

private theorem changes_abbreviated (old new : Bytes) :
    Changes seeded.abbreviationFile (fun _ => new) (abbreviated old) (abbreviated new) where
  named := rfl
  written := ⟨abbreviated old, ensureFolders_of_find (find_folder old), change_abbreviated old new⟩

def opened (journal : List Message) : Shell :=
  { bareShell with
    world := { files := abbreviated [], journal }
    session := SessionStart.started seeded 1000 { files := abbreviated [] } [] [] }

theorem create_opened : ∃ journal, (Session.create seeded).on { files := abbreviated [] } =
    (.ok (opened journal).session, (opened journal).world) := by
  have made := on_create seeded rfl { files := abbreviated [] }
  have fields : fieldsAt (abbreviated []) seeded.abbreviationFile.text = .ok [] := by
    rw [fieldsAt, finding_writable (writable_abbreviated [])]
    rfl
  rw [entriesAt_abbreviated, fields] at made
  exact made

theorem call_abbreviated {shell : Shell} {old : Bytes} (call : Call)
    (keeps : shell.session.abbreviations.file = some seeded.abbreviationFile)
    (holds : shell.world.files = abbreviated old) (applies : call.applies shell.session.abbreviations = true) :
    (runBuiltin .abbr call.arguments).on shell =
      (.ok (.status 0), changed shell (call.change shell.session.abbreviations.table)
        (abbreviated (saved (call.change shell.session.abbreviations.table)))) :=
  on_applied keeps applies (holds ▸ changes_abbreviated old _)

/-- A default that was given another expansion keeps it, and a new word that was erased stays away. -/
theorem redefined_default_lasts :
    ∃ (world next : World) (shell after : Shell) (session : Session) (last : World),
      (Session.create seeded).on world = (.ok shell.session, shell.world) ∧
      Succeed [.define "gs" "git" ["log"], .define "ll" "ls" [], .erase "ll"] shell after ∧
      next.files = after.world.files ∧ (Session.create seeded).on next = (.ok session, last) ∧
      ∀ word, session.abbreviations.table.get? word = after.session.abbreviations.table.get? word := by
  obtain ⟨journal, started⟩ := create_opened
  have texts : Texts seeded.abbreviations := List.forall_mem_singleton.mpr ⟨"git status", rfl⟩
  have holds : Stored seeded.abbreviationFile (opened journal).world.files (some []) := writable_abbreviated []
  have ran : Succeed [.define "gs" "git" ["log"], .define "ll" "ls" [], .erase "ll"] (opened journal) _ :=
    .call (call_abbreviated _ rfl rfl rfl)
      (.call (call_abbreviated _ rfl rfl rfl) (.call (call_abbreviated _ rfl rfl rfl) .nothing))
  have history := entriesAt_abbreviated (saved [("gs", "git log")])
  obtain ⟨session, last, made, -, same⟩ := next_session texts started holds ran rfl history
  refine ⟨_, _, _, _, session, last, started, ran, rfl, made, same.mpr fun word there => ?_⟩
  have only : "gs" = word := by
    by_contra other
    have lacks : (Table.ofPairs seeded.abbreviations).get? word = none := if_neg other
    rw [Table.has, lacks] at there
    cases there
  rw [← only]
  rfl

/-- A default that was erased is back in the next session. -/
theorem erased_default_returns :
    ∃ (world next : World) (shell after : Shell) (session : Session) (last : World),
      (Session.create seeded).on world = (.ok shell.session, shell.world) ∧
      Succeed [.erase "gs"] shell after ∧ next.files = after.world.files ∧
      (Session.create seeded).on next = (.ok session, last) ∧
      after.session.abbreviations.table.has "gs" = false ∧ session.abbreviations.table.has "gs" = true := by
  obtain ⟨journal, started⟩ := create_opened
  have ran : Succeed [.erase "gs"] (opened journal) (changed (opened journal) [] (abbreviated (saved []))) :=
    .call (call_abbreviated (.erase "gs") rfl rfl rfl) .nothing
  have fields : fieldsAt (abbreviated (saved [])) seeded.abbreviationFile.text = .ok [] :=
    fieldsAt_saved nofun List.nodup_nil (writable_abbreviated _)
  have made := on_create seeded rfl { files := abbreviated (saved []) }
  rw [entriesAt_abbreviated, fields] at made
  obtain ⟨journal, made⟩ := made
  exact ⟨_, { files := abbreviated (saved []) }, _, _, _, _, started, ran, rfl, made, rfl, rfl⟩

end CommandShell.Proofs.AbbreviationRuns
