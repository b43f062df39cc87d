import CommandShell.Proofs.HistoryRecords

/-! The lines that are written for entries of the history. A command takes one line, whatever stands in
it, and the lines are read back as the entries that they were written for. -/

namespace CommandShell.Proofs.RecordedLines
open History HistoryRecords TextLines

variable {entries : List Entry}

private theorem escape_eq_replaced (command : Text) :
    escape command = Text.replaceChar '\n' "\\n" (Text.replaceChar '\\' "\\\\" command) := by
  unfold escape Text.replaceChar
  rw [List.flatMap_assoc]
  refine List.flatMap_congr fun c _ => ?_
  by_cases backslash : c = '\\'
  · rw [if_pos backslash, if_pos backslash]
    rfl
  · rw [if_neg backslash, if_neg backslash, List.flatMap_singleton]
    rfl

private theorem feed_notMem_escape (command : Text) : '\n' ∉ escape command := by
  intro inside
  obtain ⟨c, -, inside⟩ := List.mem_flatMap.mp inside
  split at inside
  next => exact absurd inside (by decide)
  next =>
    split at inside
    next => exact absurd inside (by decide)
    next other => exact other (List.mem_singleton.mp inside).symm

private theorem feed_notMem_time {time : Int} (readable : Readable time) : '\n' ∉ Text.ofInt time := by
  rw [readable.ofInt_eq]
  intro inside
  cases isDigit_of_mem_ofNat inside

private theorem feed_notMem_recordLines {entry : Entry} (readable : Readable entry.time) :
    ∀ line ∈ recordLines entry, '\n' ∉ line := by
  have mark : '\n' ∉ commandMark := by decide
  have mark' : '\n' ∉ timeMark := by decide
  simp only [recordLines, List.forall_mem_cons, List.mem_append, not_or]
  exact ⟨⟨mark, feed_notMem_escape _⟩, ⟨mark', feed_notMem_time readable⟩, List.forall_mem_nil _⟩

private theorem splitOn_lines {lines : List Text} (single : ∀ line ∈ lines, '\n' ∉ line) :
    Text.splitOn '\n' (lines.flatMap fun line => line ++ ['\n']) = lines ++ [[]] := by
  by_cases none : lines = []
  · rw [none]
    rfl
  · have apart : Text.splitOn '\n' (Text.join ['\n'] lines) = lines := List.splitOn_intercalate '\n' single none
    rw [flatMap_ended none, Text.splitOn, List.splitOn_eq_splitOnP]
    have cut := List.splitOnP_append_cons (p := fun c => c == '\n') (Text.join ['\n'] lines) []
      (beq_self_eq_true '\n')
    rw [cut, ← List.splitOn_eq_splitOnP, ← Text.splitOn, apart]
    rfl

/-- The lines that are written for entries, each without the line feed at its end. -/
def writtenLines (entries : List Entry) : List Text :=
  (Text.splitOn '\n' (entries.flatMap record)).dropLast

private theorem records_lines (timely : ∀ entry ∈ entries, Readable entry.time) :
    entries.flatMap record = (entries.flatMap recordLines).flatMap fun line => line ++ ['\n'] := by
  rw [List.flatMap_assoc]
  exact List.flatMap_congr fun entry inside => record_short (timely entry inside).short

theorem writtenLines_eq (timely : ∀ entry ∈ entries, Readable entry.time) :
    writtenLines entries = entries.flatMap recordLines := by
  have single : ∀ line ∈ entries.flatMap recordLines, '\n' ∉ line := by
    intro line inside
    obtain ⟨entry, member, inside⟩ := List.mem_flatMap.mp inside
    exact feed_notMem_recordLines (timely entry member) line inside
  rw [writtenLines, records_lines timely, splitOn_lines single, List.dropLast_concat]

private theorem replay_writtenLines (history : History) (timely : ∀ entry ∈ entries, Readable entry.time) :
    replay history none (writtenLines entries) = (entries.foldl push history, .ok ()) := by
  have read := replay_records history (writtenLines entries)
  rw [writtenLines_eq timely, records_written timely] at read
  rw [writtenLines_eq timely]
  exact read

private theorem foldl_push_room {history : History}
    (room : history.entries.length + entries.length ≤ history.most) :
    entries.foldl push history = { history with entries := history.entries ++ entries } := by
  have whole {all : List Entry} (fits : all.length ≤ history.most) : all.rtake history.most = all := by
    rw [List.rtake, Nat.sub_eq_zero_of_le fits, List.drop_zero]
  have pushed := foldl_push history history.entries entries
  rwa [whole (by omega), whole (by rwa [List.length_append])] at pushed

/-- Escaping replaces backslashes and then line feeds, so that a command takes one line; it loses nothing and
goes character by character. The lines that are written for entries are read back as these entries, in their
order, whatever the commands are. -/
theorem written_lines_replayed (history : History) (timely : ∀ entry ∈ entries, Readable entry.time) :
    (∀ command, escape command = Text.replaceChar '\n' "\\n" (Text.replaceChar '\\' "\\\\" command) ∧
      '\n' ∉ escape command ∧ unescape (escape command) = command) ∧
    (∀ first second, escape (first ++ second) = escape first ++ escape second) ∧
    entries.flatMap record = (writtenLines entries).flatMap (fun line => line ++ ['\n']) ∧
    replay history none (writtenLines entries) = (entries.foldl push history, .ok ()) ∧
    (history.entries.length + entries.length ≤ history.most →
      entries.foldl push history = { history with entries := history.entries ++ entries }) := by
  refine ⟨fun command => ⟨escape_eq_replaced command, feed_notMem_escape command, unescape_escape command⟩,
    escape_append, ?_, replay_writtenLines history timely, foldl_push_room⟩
  rw [writtenLines_eq timely, records_lines timely]

def oddEntries : List Entry := [⟨"a\\n\nb\r", 5⟩, ⟨"  when: 7\n- cmd: ls", 0⟩]

theorem odd_commands_replayed :
    (∀ entry ∈ oddEntries, Readable entry.time) ∧
    replay { most := 2 } none (writtenLines oddEntries) = ({ most := 2, entries := oddEntries }, .ok ()) := by
  have timely : ∀ entry ∈ oddEntries, Readable entry.time := by decide
  obtain ⟨-, -, -, read, room⟩ := written_lines_replayed { most := 2 } timely
  refine ⟨timely, read.trans ?_⟩
  rw [room (by decide)]
  rfl

end CommandShell.Proofs.RecordedLines
