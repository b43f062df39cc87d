import CommandShell.Proofs.HistoryRuns

/-! A record behind whatever a history file ends with. Behind a line that has ended it is read back.
Behind one that has not, its command goes on that line and is lost. -/

namespace CommandShell.Proofs.HistoryTail
open ActSteps History HistoryRecords HistoryRuns TextLines

def commandsIn (lines : List Text) : List Text :=
  lines.filterMap fun line => (Text.dropStart? commandMark line).map unescape

private theorem commandsIn_append (first second : List Text) :
    commandsIn (first ++ second) = commandsIn first ++ commandsIn second := List.filterMap_append

theorem commandsIn_skip {line : Text} (unmarked : Text.dropStart? commandMark line = none)
    (rest : List Text) : commandsIn (line :: rest) = commandsIn rest := by
  rw [commandsIn, List.filterMap_cons, unmarked]
  rfl

private theorem commandsIn_command {line raw : Text} (marked : Text.dropStart? commandMark line = some raw)
    (rest : List Text) : commandsIn (line :: rest) = unescape raw :: commandsIn rest := by
  rw [commandsIn, List.filterMap_cons, marked]
  rfl

theorem records_command_ok {line raw : Text} (marked : Text.dropStart? commandMark line = some raw)
    {rest : List Text} {entries : List Entry} :
    records (line :: rest) = .ok entries ↔ ∃ time later, timeBehind rest = .ok time ∧
      records rest = .ok later ∧ entries = ⟨unescape raw, time⟩ :: later := by
  rw [records_command marked]
  cases timeBehind rest with
  | error fault => simp [bind, Except.bind]
  | ok time =>
    cases records rest with
    | error fault => simp [bind, Except.bind]
    | ok later => simp [bind, Except.bind, pure, Except.pure, eq_comm]

private theorem command_records {lines : List Text} {entries : List Entry}
    (read : records lines = .ok entries) :
    entries.map Entry.command = commandsIn lines := by
  induction lines generalizing entries with
  | nil =>
    cases read
    rfl
  | cons line rest ih =>
    cases marked : Text.dropStart? commandMark line with
    | none =>
      rw [records_skip marked] at read
      rw [commandsIn_skip marked, ih read]
    | some raw =>
      obtain ⟨time, later, -, found, rfl⟩ := (records_command_ok marked).mp read
      rw [commandsIn_command marked, List.map_cons, ih found]

section Replaced

variable {front lines other : List Text} {time : Int} (timed : timeBehind other = .ok time)

include timed

private theorem timeBehind_replaced {before : Int} (read : timeBehind (front ++ lines) = .ok before) :
    ∃ found, timeBehind (front ++ other) = .ok found := by
  induction front with
  | nil => exact ⟨time, timed⟩
  | cons line rest ih =>
    rw [List.cons_append, timeBehind] at read ⊢
    split at read
    next marked => exact ⟨0, if_pos marked⟩
    next unmarked =>
      rw [if_neg unmarked]
      split at read
      next => exact ⟨before, read⟩
      next => exact ih read

/-- Lines that can be read can be read with other lines at their end. -/
theorem records_replaced {entries last : List Entry} (read : records (front ++ lines) = .ok entries)
    (others : records other = .ok last) : ∃ found, records (front ++ other) = .ok found := by
  induction front generalizing entries with
  | nil => exact ⟨last, others⟩
  | cons line rest ih =>
    rw [List.cons_append] at read ⊢
    cases marked : Text.dropStart? commandMark line with
    | none =>
      rw [records_skip marked] at read ⊢
      exact ih read
    | some raw =>
      obtain ⟨before, later, here, read, -⟩ := (records_command_ok marked).mp read
      obtain ⟨found, here⟩ := timeBehind_replaced timed here
      obtain ⟨entries, read⟩ := ih read
      exact ⟨_, (records_command_ok marked).mpr ⟨found, entries, here, read, rfl⟩⟩

end Replaced

private theorem mem_dropWhile {c : Char} {t : Text} (inside : c ∈ t) (sharp : Text.isBlank c = false) :
    c ∈ t.dropWhile Text.isBlank := by
  rw [← List.takeWhile_append_dropWhile (p := Text.isBlank) (l := t)] at inside
  rcases List.mem_append.mp inside with blank | behind
  · cases sharp.symm.trans (List.mem_takeWhile_imp blank)
  · exact behind

private theorem mem_trim {c : Char} {t : Text} (inside : c ∈ t) (sharp : Text.isBlank c = false) :
    c ∈ Text.trim t :=
  List.mem_reverse.mpr (mem_dropWhile (List.mem_reverse.mpr (mem_dropWhile inside sharp)) sharp)

private theorem timeOf_dash {raw : Text} (dash : '-' ∈ raw) : timeOf raw = .ok 0 := by
  have inside : '-' ∈ Text.trim raw := mem_trim dash rfl
  have broken : (Text.trim raw).all Text.isDigit = false :=
    List.all_eq_false.mpr ⟨'-', inside, by decide⟩
  rw [timeOf, broken, Bool.and_false]
  rfl

/-- The first line of a record, behind a line that has not ended. -/
def merged (last command : Text) : Text := last ++ (commandMark ++ escape command)

private theorem merged_marked {last raw : Text} (marked : Text.dropStart? commandMark last = some raw)
    (command : Text) :
    Text.dropStart? commandMark (merged last command) = some (raw ++ (commandMark ++ escape command)) := by
  rw [merged, Text.dropStart?_eq_some_iff.mp marked, List.append_assoc]
  exact dropStart?_mark _ _

private theorem merged_unmarked {last : Text} (filled : last ≠ [])
    (unmarked : Text.dropStart? commandMark last = none) (command : Text) :
    Text.dropStart? commandMark (merged last command) = none := by
  rw [Option.eq_none_iff_forall_ne_some] at unmarked ⊢
  intro raw marked
  have same := Text.dropStart?_eq_some_iff.mp marked
  rw [merged] at same
  obtain ⟨between, mark, behind⟩ | ⟨between, whole, -⟩ := List.append_eq_append_iff.mp same
  · -- The mark would begin in the line and end in the record, whose dash is then inside of the mark.
    have dash : '-' ∉ commandMark.tail := by decide
    cases between with
    | nil =>
      rw [List.append_nil] at mark
      exact unmarked [] (Text.dropStart?_eq_some_iff.mpr (by rw [mark, List.append_nil]))
    | cons c more =>
      obtain rfl : '-' = c := (List.cons.inj behind).1
      cases last with
      | nil => exact filled rfl
      | cons d front =>
        rw [mark] at dash
        exact dash (by simp)
  · exact unmarked between (Text.dropStart?_eq_some_iff.mpr whole)

section Torn

variable {base last : Text} (unbroken : Unbroken last) (filled : last ≠ [])

include unbroken filled

private theorem not_ended : ¬ Ended (base ++ last) := by
  intro whole
  rw [Ended, List.getLast?_append_of_ne_nil base filled] at whole
  have final := whole _ (List.getLast?_eq_some_getLast filled)
  cases final.symm.trans (unbroken _ (List.getLast_mem filled))

variable (ended : Ended base)

include ended

private theorem lines_torn : Text.lines (base ++ last) = Text.lines base ++ [last] := by
  have no_feed := no_feed_head unbroken filled []
  rw [List.append_nil] at no_feed
  rw [lines_append ended no_feed, lines_last unbroken filled]

private theorem lines_merged {entry : Entry} (lasting : Lasting entry) :
    Text.lines (base ++ last ++ record entry) =
      Text.lines base ++ [merged last entry.command, timeMark ++ Text.ofInt entry.time] := by
  have first : Unbroken (merged last entry.command) := unbroken.append lasting.unbroken_command
  have some_line : merged last entry.command ≠ [] := by simp [merged, filled]
  have no_feed := no_feed_head first some_line ('\n' :: ((timeMark ++ Text.ofInt entry.time) ++ ['\n']))
  rw [← List.append_nil (record entry), record_eq lasting.readable.short, List.append_assoc,
    ← List.append_assoc last, ← merged, lines_append ended no_feed, lines_line first,
    lines_line lasting.unbroken_time]
  rfl

end Torn

private theorem timeBehind_merged (last : Text) {entry : Entry} (readable : Readable entry.time) :
    ∃ time, timeBehind [merged last entry.command, timeMark ++ Text.ofInt entry.time] = .ok time := by
  rw [timeBehind]
  split
  · exact ⟨0, rfl⟩
  split
  next raw timed =>
    have inside : '-' ∈ commandMark := by decide
    have dash : '-' ∈ merged last entry.command :=
      List.mem_append_right last (List.mem_append_left _ inside)
    rw [Text.dropStart?_eq_some_iff.mp timed] at dash
    have apart : '-' ∉ timeMark := by decide
    exact ⟨0, timeOf_dash ((List.mem_append.mp dash).resolve_left apart)⟩
  next => exact ⟨entry.time, timeBehind_time readable []⟩

private theorem unescape_merged (raw command : Text) :
    unescape (raw ++ (commandMark ++ escape command)) = unescape raw ++ (commandMark ++ command) := by
  have whole : commandMark ++ escape command = escape (commandMark ++ command) := by
    rw [escape_append]
    rfl
  have apart : ∀ c ∈ (commandMark ++ escape command).head?, c ≠ 'n' ∧ c ≠ '\\' := by
    intro c first
    obtain rfl : '-' = c := Option.some.inj first
    decide
  rw [unescape_append apart, whole, unescape_escape]

/-- The command of a record whose first line is merged is not the last one that is read: the last one is
longer, or it is the one that was the last before. -/
theorem records_merged {base : List Text} {last : Text} {seen : List Entry} (filled : last ≠ [])
    (read : records (base ++ [last]) = .ok seen) {entry : Entry} (readable : Readable entry.time)
    (fresh : (seen.map Entry.command).getLast? ≠ some entry.command) :
    ∃ found, records (base ++ [merged last entry.command, timeMark ++ Text.ofInt entry.time]) = .ok found ∧
      (found.map Entry.command).getLast? ≠ some entry.command := by
  have behind : records [timeMark ++ Text.ofInt entry.time] = .ok [] := rfl
  cases marked : Text.dropStart? commandMark last with
  | some raw =>
    have marks := merged_marked marked entry.command
    rw [records_append marked] at read
    cases earlier : records base with
    | error fault =>
      rw [earlier] at read
      cases read
    | ok entries =>
      have timed := timeBehind_time readable []
      rw [records_append marks, earlier, (records_command_ok marks).mpr ⟨_, _, timed, behind, rfl⟩]
      refine ⟨_, rfl, ?_⟩
      rw [List.map_append, List.map_singleton, List.getLast?_concat, unescape_merged]
      intro same
      have long := congrArg List.length (Option.some.inj same)
      have size : commandMark.length = 7 := rfl
      rw [List.length_append, List.length_append, size] at long
      omega
  | none =>
    have unmarked := merged_unmarked filled marked entry.command
    obtain ⟨time, timed⟩ := timeBehind_merged last readable
    rw [← records_skip unmarked] at behind
    obtain ⟨found, later⟩ := records_replaced timed read behind
    have commands := command_records read
    rw [commandsIn_append, commandsIn_skip marked] at commands
    refine ⟨found, later, ?_⟩
    rwa [command_records later, commandsIn_append, commandsIn_skip unmarked,
      commandsIn_skip (time_unmarked _), ← commands]

private theorem rtake_rtake (entries : List Entry) (most more : Nat) :
    (entries.rtake most).rtake more = entries.rtake (min more most) := by
  rw [List.rtake_eq_reverse_take_reverse, List.rtake_eq_reverse_take_reverse,
    List.rtake_eq_reverse_take_reverse, List.reverse_reverse, List.take_take]

private theorem rtake_rtake_concat (entries : List Entry) (most : Nat) (entry : Entry) :
    (entries.rtake most ++ [entry]).rtake most = (entries ++ [entry]).rtake most := by
  cases most with
  | zero => rw [List.rtake_zero, List.rtake_zero]
  | succ more =>
    rw [List.rtake_concat_succ, List.rtake_concat_succ, rtake_rtake, Nat.min_eq_left (Nat.le_succ more)]

private theorem getLast?_rtake {most : Nat} (positive : 0 < most) (entries : List Entry) :
    (entries.rtake most).getLast? = entries.getLast? := by
  obtain ⟨more, rfl⟩ := Nat.exists_eq_succ_of_ne_zero (Nat.ne_of_gt positive)
  rcases List.eq_nil_or_concat' entries with rfl | ⟨front, entry, rfl⟩
  · rw [List.rtake_nil]
  · rw [Nat.succ_eq_add_one, List.rtake_concat_succ, List.getLast?_concat, List.getLast?_concat]

private theorem linesIn_recorded {content : Bytes} {entry : Entry} (lasting : Lasting entry) :
    linesIn (some (content ++ Utf8.encode (record entry))) = Text.lines (textOf content ++ record entry) := by
  have all : ∀ other ∈ [entry], Lasting other := fun other inside => List.mem_singleton.mp inside ▸ lasting
  have text := textOf_append all content
  rw [List.flatMap_singleton] at text
  rw [linesIn, Option.getD_some, text]

private theorem records_behind {text : Text} {seen : List Entry} (read : records (Text.lines text) = .ok seen)
    {entry : Entry} (lasting : Lasting entry)
    (fresh : (seen.map Entry.command).getLast? ≠ some entry.command) :
    ∃ found, records (Text.lines (text ++ record entry)) = .ok found ∧
      (Ended text → found = seen ++ [entry]) ∧ (¬ Ended text → found.getLast? ≠ some entry) := by
  obtain ⟨base, last, rfl, ended, unbroken⟩ := exists_tail text
  by_cases filled : last = []
  · subst filled
    rw [List.append_nil] at read ⊢
    have no_feed : (record entry).head? ≠ some '\n' := fun first => by cases Option.some.inj first
    have lines := lines_record lasting []
    rw [List.append_nil] at lines
    rw [lines_append ended no_feed, lines]
    exact ⟨_, records_record lasting.readable read, fun _ => rfl, fun open_line => absurd ended open_line⟩
  · rw [lines_torn unbroken filled ended] at read
    obtain ⟨found, later, lost⟩ := records_merged filled read lasting.readable fresh
    rw [lines_merged unbroken filled ended lasting]
    refine ⟨found, later, fun whole => absurd whole (not_ended unbroken filled), fun _ same => lost ?_⟩
    rw [List.getLast?_map, same]
    rfl

private theorem load_added {store : History} {path : Path} {content : Bytes} {world : World}
    {seen : List Entry}
    {entry : Entry} (keeps : store.file = some path) (holds : Stored path world.files (some content))
    (read : records (Text.lines (textOf content)) = .ok seen) (lasting : Lasting entry)
    (accepted : (newest store seen).accepts entry.command = true) :
    ∃ history after found last,
      ((newest store seen).add entry.command (some entry.time)).run world = ((history, .ok true), after) ∧
      store.load.run after = ((newest store found, .ok ()), last) ∧
      (Ended (textOf content) → found = seen ++ [entry]) ∧
      (¬ Ended (textOf content) → found.getLast? ≠ some entry) := by
  have fresh : (seen.map Entry.command).getLast? ≠ some entry.command := by
    have apart := (not_or.mp ((accepts_newest store seen entry.command).mp accepted)).2
    rwa [getLast?_rtake store.most_pos, ← List.getLast?_map] at apart
  obtain ⟨files, added, held⟩ := run_add_stored keeps holds accepted (some entry.time)
  rw [Option.getD_some, ending_short lasting.readable.short] at added
  generalize reached : { world with files } = after at added
  have stands : Stored path after.files (some (content ++ Utf8.encode (record entry))) := by
    rw [← reached]
    exact held
  obtain ⟨found, behind, kept, lost⟩ := records_behind read lasting fresh
  have reread := run_load_records keeps stands
  rw [linesIn_recorded lasting, behind] at reread
  obtain ⟨journal, reread⟩ := reread
  exact ⟨_, after, found, _, added, reread, kept, lost⟩

/-- A history that was loaded takes one more entry. If the last line of its file had ended, loading the
file anew gives the entries that there were and the new one at the end. If it had not, the new entry is
not the last one that is read. -/
theorem add_behind_tail {store : History} {path : Path} {content : Bytes} {world between : World}
    {earlier : History} {entry : Entry} (keeps : store.file = some path)
    (held : Writable path content world.files)
    (loaded : store.load.run world = ((earlier, .ok ()), between)) (lasting : Lasting entry)
    (accepted : earlier.accepts entry.command = true) :
    ∃ history after later last,
      (earlier.add entry.command (some entry.time)).run between = ((history, .ok true), after) ∧
      store.load.run after = ((later, .ok ()), last) ∧
      (Ended (textOf content) → later.entries = (earlier.entries ++ [entry]).rtake store.most) ∧
      (¬ Ended (textOf content) → later.entries.getLast? ≠ some entry) := by
  have holds : Stored path world.files (some content) := held
  have read := run_load_records keeps holds
  cases found : records (linesIn (some content)) with
  | error fault =>
    rw [found, loaded] at read
    cases read
  | ok seen =>
    rw [found, loaded] at read
    obtain ⟨journal, same⟩ := read
    cases same
    have stands : Stored path ({ world with journal } : World).files (some content) := held
    obtain ⟨history, after, later, last, added, reread, kept, lost⟩ :=
      load_added keeps stands found lasting accepted
    refine ⟨history, after, _, last, added, reread, fun ended => ?_, fun torn => ?_⟩
    · rw [newest, newest, rtake_rtake_concat, kept ended]
    · rw [newest, getLast?_rtake store.most_pos]
      exact lost torn

def rooted : History := .ofLimit (some ⟨"/", ["h"]⟩) 1000

private theorem load_filed {content : Bytes} {seen : List Entry}
    (read : records (linesIn (some content)) = .ok seen) :
    ∃ between, rooted.load.run { files := filed content } = ((newest rooted seen, .ok ()), between) ∧
      Writable ⟨"/", ["h"]⟩ content between.files := by
  have holds : Stored ⟨"/", ["h"]⟩ ({ files := filed content } : World).files (some content) :=
    writable_filed content
  have keeps : rooted.file = some ⟨"/", ["h"]⟩ := rfl
  have loaded := run_load_records keeps holds
  rw [read] at loaded
  obtain ⟨journal, loaded⟩ := loaded
  exact ⟨_, loaded, writable_filed content⟩

private theorem lasting_pwd : Lasting ⟨"pwd", 7⟩ where
  plain := by decide
  readable := by decide

theorem ended_line_keeps_command :
    ∃ between history after later last,
      rooted.load.run { files := filed (Utf8.encode "- cmd: ls\n  when: 5\n") } =
        ((newest rooted [⟨"ls", 5⟩], .ok ()), between) ∧
      ((newest rooted [⟨"ls", 5⟩]).add "pwd" (some 7)).run between = ((history, .ok true), after) ∧
      rooted.load.run after = ((later, .ok ()), last) ∧ later.entries = [⟨"ls", 5⟩, ⟨"pwd", 7⟩] := by
  have read : records (linesIn (some (Utf8.encode "- cmd: ls\n  when: 5\n"))) = .ok [⟨"ls", 5⟩] := by rfl
  obtain ⟨between, loaded, -⟩ := load_filed read
  obtain ⟨history, after, later, last, added, reread, kept, -⟩ :=
    add_behind_tail rfl (writable_filed _) loaded lasting_pwd rfl
  have ended : Ended (textOf (Utf8.encode "- cmd: ls\n  when: 5\n")) := by decide
  exact ⟨between, history, after, later, last, loaded, added, reread, kept ended⟩

/-- Without the end of the last line, the new command is lost, and the one before loses its time. -/
theorem open_line_loses_command :
    ∃ between history after later last,
      rooted.load.run { files := filed (Utf8.encode "- cmd: ls\n  when: 5") } =
        ((newest rooted [⟨"ls", 5⟩], .ok ()), between) ∧
      ((newest rooted [⟨"ls", 5⟩]).add "pwd" (some 7)).run between = ((history, .ok true), after) ∧
      rooted.load.run after = ((later, .ok ()), last) ∧ later.entries = [⟨"ls", 0⟩] := by
  have read : records (linesIn (some (Utf8.encode "- cmd: ls\n  when: 5"))) = .ok [⟨"ls", 5⟩] := by rfl
  obtain ⟨between, loaded, held⟩ := load_filed read
  have holds : Stored ⟨"/", ["h"]⟩ between.files (some (Utf8.encode "- cmd: ls\n  when: 5")) := held
  have keeps : rooted.file = some ⟨"/", ["h"]⟩ := rfl
  have accepted : (newest rooted [⟨"ls", 5⟩]).accepts "pwd" = true := rfl
  obtain ⟨files, added, held⟩ := run_add_stored keeps holds accepted (some 7)
  rw [Option.getD_some, ending_short lasting_pwd.readable.short] at added
  have written : Utf8.encode "- cmd: ls\n  when: 5" ++ Utf8.encode (record ⟨"pwd", 7⟩) =
      Utf8.encode "- cmd: ls\n  when: 5- cmd: pwd\n  when: 7\n" := by rfl
  have stands : Stored ⟨"/", ["h"]⟩ ({ between with files } : World).files
      (some (Utf8.encode "- cmd: ls\n  when: 5- cmd: pwd\n  when: 7\n")) := by
    rw [← written]
    exact held
  have reread := run_load_records keeps stands
  have lost : records (linesIn (some (Utf8.encode "- cmd: ls\n  when: 5- cmd: pwd\n  when: 7\n"))) =
      .ok [⟨"ls", 0⟩] := by rfl
  rw [lost] at reread
  obtain ⟨journal, reread⟩ := reread
  exact ⟨between, _, _, _, _, loaded, added, reread, rfl⟩

end CommandShell.Proofs.HistoryTail
