import Mathlib.Data.List.DropRight
import CommandShell.History
import CommandShell.Proofs.TextLines
import CommandShell.Proofs.Utf8Text

/-! What the lines of a history file say: the entries that they record, without a limit, and what is
kept of them. -/

namespace CommandShell.Proofs.HistoryRecords
open History TextLines

/-- The time that lines give to a command in front of them. -/
def timeBehind : List Text → Except Fault Int
  | [] => .ok 0
  | line :: rest =>
    if (Text.dropStart? commandMark line).isSome then .ok 0
    else match Text.dropStart? timeMark line with
      | some raw => timeOf raw
      | none => timeBehind rest

/-- The entries that lines record, one for each line of a command. -/
def records : List Text → Except Fault (List Entry)
  | [] => .ok []
  | line :: rest =>
    match Text.dropStart? commandMark line with
    | none => records rest
    | some raw => do
      let time ← timeBehind rest
      let later ← records rest
      return ⟨unescape raw, time⟩ :: later

theorem records_skip {line : Text} (unmarked : Text.dropStart? commandMark line = none)
    (rest : List Text) : records (line :: rest) = records rest := by
  rw [records, unmarked]

theorem records_command {line raw : Text} (marked : Text.dropStart? commandMark line = some raw)
    (rest : List Text) :
    records (line :: rest) = do
      let time ← timeBehind rest
      let later ← records rest
      return ⟨unescape raw, time⟩ :: later := by
  rw [records, marked]

private theorem replay_command {line raw : Text} (marked : Text.dropStart? commandMark line = some raw)
    (history : History) (rest : List Text) :
    replay history none (line :: rest) = replay history (some (unescape raw)) rest := by
  rw [replay, marked]

private theorem replay_skip {line : Text} (unmarked : Text.dropStart? commandMark line = none)
    (history : History) (rest : List Text) :
    replay history none (line :: rest) = replay history none rest := by
  rw [replay, unmarked]

/-- A command that waits for its time gets it, and the lines are read on as if it had not waited. -/
theorem replay_waiting (history : History) (command : Text) (lines : List Text) :
    replay history (some command) lines =
      match timeBehind lines with
      | .ok time => replay (history.push ⟨command, time⟩) none lines
      | .error fault => (history, .error fault) := by
  induction lines with
  | nil => rfl
  | cons line rest ih =>
    cases marked : Text.dropStart? commandMark line with
    | some raw => simp only [replay, timeBehind, marked, Option.isSome_some, if_true]
    | none =>
      cases timed : Text.dropStart? timeMark line with
      | some raw =>
        cases time : timeOf raw <;>
          simp only [replay, timeBehind, marked, timed, time, Option.isSome_none, Bool.false_eq_true,
            if_false]
      | none =>
        simp only [replay, timeBehind, marked, timed, Option.isSome_none, Bool.false_eq_true, if_false]
        exact ih

/-- Reading lines adds their entries one after the other. It fails as soon as one has no time. -/
theorem replay_records (history : History) (lines : List Text) :
    match records lines with
    | .ok entries => replay history none lines = (entries.foldl push history, .ok ())
    | .error fault => (replay history none lines).2 = .error fault := by
  induction lines generalizing history with
  | nil => rfl
  | cons line rest ih =>
    cases marked : Text.dropStart? commandMark line with
    | none =>
      rw [records_skip marked, replay_skip marked]
      exact ih history
    | some raw =>
      rw [replay_command marked, replay_waiting, records_command marked]
      cases timeBehind rest with
      | error fault => rfl
      | ok time =>
        have later := ih (history.push ⟨unescape raw, time⟩)
        cases found : records rest with
        | error fault =>
          rw [found] at later
          exact later
        | ok entries =>
          rw [found] at later
          exact later

theorem push_rtake (history : History) (all : List Entry) (entry : Entry) :
    push { history with entries := all.rtake history.most } entry =
      { history with entries := (all ++ [entry]).rtake history.most } := by
  obtain ⟨file, most, positive, entries⟩ := history
  obtain ⟨n, rfl⟩ := Nat.exists_eq_succ_of_ne_zero (Nat.ne_of_gt positive)
  have kept : (if (all.rtake (n + 1)).length ≥ n + 1 then (all.rtake (n + 1)).drop 1
      else all.rtake (n + 1)) = all.rtake n := by
    unfold List.rtake
    rw [List.length_drop, List.drop_drop]
    split
    next full => rw [show all.length - (n + 1) + 1 = all.length - n by omega]
    next room => rw [show all.length - (n + 1) = all.length - n by omega]
  simp only [push, Nat.succ_eq_add_one, kept, List.rtake_concat_succ]

theorem foldl_push (history : History) (all entries : List Entry) :
    entries.foldl push { history with entries := all.rtake history.most } =
      { history with entries := (all ++ entries).rtake history.most } := by
  induction entries generalizing all with
  | nil => rw [List.append_nil]; rfl
  | cons entry rest ih =>
    rw [List.foldl_cons, push_rtake, ih, List.append_assoc]
    rfl

private theorem unescape_cons {c : Char} (plain : c ≠ '\\') (rest : Text) :
    unescape (c :: rest) = c :: unescape rest := by
  rw [unescape.eq_def]
  split
  next same => cases same
  next same => exact absurd (List.cons.inj same).1 plain
  next same => exact absurd (List.cons.inj same).1 plain
  next same =>
    cases same
    rfl

private theorem unescape_backslash {rest : Text} (apart : ∀ c ∈ rest.head?, c ≠ 'n' ∧ c ≠ '\\') :
    unescape ('\\' :: rest) = '\\' :: unescape rest := by
  cases rest with
  | nil => rfl
  | cons c rest =>
    obtain ⟨no_feed, no_backslash⟩ := apart c rfl
    rw [unescape.eq_4]
    · intro more _ same
      exact no_feed (List.cons.inj same).1
    · intro more _ same
      exact no_backslash (List.cons.inj same).1

/-- A backslash at the end of a text takes nothing with it that is neither a backslash nor an `n`. -/
theorem unescape_append {rest : Text} (apart : ∀ c ∈ rest.head?, c ≠ 'n' ∧ c ≠ '\\') (front : Text) :
    unescape (front ++ rest) = unescape front ++ unescape rest := by
  fun_induction unescape front with
  | case1 => rfl
  | case2 front ih | case3 front ih =>
    rw [List.cons_append, List.cons_append, unescape, ih]
    rfl
  | case4 c front no_feed no_backslash ih =>
    by_cases backslash : c = '\\'
    · subst backslash
      rw [List.cons_append, List.cons_append, ← ih]
      refine unescape_backslash fun d there => ?_
      cases front with
      | nil => exact apart d there
      | cons e more =>
        obtain rfl := Option.some.inj there
        exact ⟨fun feed => no_feed more rfl (by rw [feed]),
          fun again => no_backslash more rfl (by rw [again])⟩
    · rw [List.cons_append, unescape_cons backslash, ih]
      rfl

theorem unescape_escape (command : Text) : unescape (escape command) = command := by
  unfold escape
  induction command with
  | nil => rfl
  | cons c rest ih =>
    rw [List.flatMap_cons]
    by_cases backslash : c = '\\'
    · rw [if_pos backslash, backslash]
      simp only [List.cons_append, List.nil_append, unescape, ih]
    rw [if_neg backslash]
    by_cases feed : c = '\n'
    · rw [if_pos feed, feed]
      simp only [List.cons_append, List.nil_append, unescape, ih]
    · rw [if_neg feed, List.singleton_append, unescape_cons backslash, ih]

private theorem mem_unescape {c : Char} {raw : Text} (inside : c ∈ unescape raw) : c = '\n' ∨ c ∈ raw := by
  fun_induction unescape raw with
  | case1 => cases inside
  | case2 rest ih =>
    rcases List.mem_cons.mp inside with feed | later
    · exact .inl feed
    · exact (ih later).imp_right fun there => by simp [there]
  | case3 rest ih | case4 d rest _ _ ih =>
    rcases List.mem_cons.mp inside with here | later
    · exact .inr (by simp [here])
    · exact (ih later).imp_right fun there => by simp [there]

theorem escape_append (first second : Text) :
    escape (first ++ second) = escape first ++ escape second := List.flatMap_append

/-- A command in which only line feeds end lines. -/
def Plain (command : Text) : Prop := ∀ c ∈ command, Text.isLineBreak c = true → c = '\n'

instance (command : Text) : Decidable (Plain command) :=
  decidable_of_iff (command.all fun c => !Text.isLineBreak c || c = '\n') (by simp [Plain, or_iff_not_imp_left])

private theorem plain_unescape {raw : Text} (unbroken : Unbroken raw) : Plain (unescape raw) := by
  intro c inside breaks
  rcases mem_unescape inside with feed | there
  · exact feed
  · cases breaks.symm.trans (unbroken c there)

private theorem unbroken_escape {command : Text} (plain : Plain command) : Unbroken (escape command) := by
  intro c inside
  obtain ⟨d, here, inside⟩ := List.mem_flatMap.mp inside
  by_cases backslash : d = '\\'
  · rw [if_pos backslash] at inside
    obtain rfl : c = '\\' := by simpa using inside
    rfl
  rw [if_neg backslash] at inside
  by_cases feed : d = '\n'
  · rw [if_pos feed] at inside
    obtain rfl | rfl : c = '\\' ∨ c = 'n' := by simpa using inside
    · rfl
    · rfl
  · rw [if_neg feed] at inside
    obtain rfl := List.mem_singleton.mp inside
    cases breaks : Text.isLineBreak c with
    | false => rfl
    | true => exact absurd (plain c here breaks) feed

theorem bounds_of_isDigit {c : Char} (digit : c.isDigit = true) : 0x30 ≤ c.toNat ∧ c.toNat ≤ 0x39 := by
  simpa [Char.isDigit, UInt32.le_iff_toNat_le] using digit

private theorem isBlank_of_isDigit {c : Char} (digit : c.isDigit = true) : Text.isBlank c = false := by
  have bounds := bounds_of_isDigit digit
  simp only [Text.isBlank, Bool.or_eq_false_iff, Bool.and_eq_false_iff, decide_eq_false_iff_not,
    beq_eq_false_iff_ne]
  omega

private theorem isLineBreak_of_isDigit {c : Char} (digit : c.isDigit = true) :
    Text.isLineBreak c = false := by
  have bounds := bounds_of_isDigit digit
  simp only [Text.isLineBreak, Bool.or_eq_false_iff, Bool.and_eq_false_iff, decide_eq_false_iff_not,
    beq_eq_false_iff_ne]
  omega

private theorem decimalValue?_digit {c : Char} (digit : c.isDigit = true) :
    Text.decimalValue? c = some (c.toNat - '0'.toNat) := by
  have bounds := bounds_of_isDigit digit
  have inside : (0x30 ≤ c.toNat && c.toNat < 0x30 + 10) = true := by
    rw [Bool.and_eq_true, decide_eq_true_eq, decide_eq_true_eq]
    omega
  have first : Text.zeros = 0x30 :: Text.zeros.tail := rfl
  rw [Text.decimalValue?, first, List.find?_cons]
  simp only [inside]
  rfl

theorem digits?_run {t : Text} (filled : t ≠ []) (run : '_' ∉ t) :
    Text.digits? t = t.mapM Text.decimalValue? := by
  have some_digit : t.isEmpty = false := by simpa using filled
  rw [Text.digits?, Text.splitOn, List.splitOn_eq_singleton run, List.mapM_cons]
  simp only [some_digit, Bool.false_eq_true, if_false]
  cases t.mapM Text.decimalValue? with
  | none => rfl
  | some digits => simp

private theorem digits?_of_isDigit {t : Text} (filled : t ≠ []) (digits : ∀ c ∈ t, c.isDigit = true) :
    Text.digits? t = some (t.map fun c => c.toNat - '0'.toNat) := by
  have no_sign : '_' ∉ t := fun inside => by cases digits '_' inside
  rw [digits?_run filled no_sign]
  clear filled no_sign
  induction t with
  | nil => rfl
  | cons c rest ih =>
    obtain ⟨here, behind⟩ := List.forall_mem_cons.mp digits
    rw [List.mapM_cons, decimalValue?_digit here, ih behind]
    rfl

theorem isDigit_of_mem_ofNat {n : Nat} {c : Char} (inside : c ∈ Text.ofNat n) : c.isDigit = true := by
  rw [Text.ofNat_eq_toDigits] at inside
  exact Nat.isDigit_of_mem_toDigits (by decide) (by decide) inside

private theorem natural?_ofNat {n : Nat} (short : (Text.ofNat n).length ≤ Text.digitLimit) :
    Text.natural? (Text.ofNat n) = some n := by
  have filled : Text.ofNat n ≠ [] := by
    rw [Text.ofNat_eq_toDigits]
    exact Nat.toDigits_ne_nil
  have value : Text.value ((Text.ofNat n).map fun c => c.toNat - '0'.toNat) = n := by
    rw [Text.value, List.foldl_map, Text.ofNat_eq_toDigits]
    exact Nat.ofDigitChars_ten_toDigits
  rw [Text.natural?, digits?_of_isDigit filled fun _ => isDigit_of_mem_ofNat]
  simp only [List.length_map, if_pos short, value]

private theorem trim_eq {t : Text} (sharp : ∀ c ∈ t, Text.isBlank c = false) : Text.trim t = t := by
  have start {t : Text} (sharp : ∀ c ∈ t, Text.isBlank c = false) : t.dropWhile Text.isBlank = t := by
    cases t with
    | nil => rfl
    | cons c rest => exact List.dropWhile_cons_of_neg (by simp [sharp c])
  rw [Text.trim, Text.trimStart, start sharp, Text.trimEnd,
    start fun c inside => sharp c (List.mem_reverse.mp inside), List.reverse_reverse]

/-- Times with no more digits than a number may have. -/
def Short (time : Int) : Prop := (Text.ofNat time.natAbs).length ≤ Text.digitLimit

instance (time : Int) : Decidable (Short time) := inferInstanceAs (Decidable (_ ≤ _))

theorem timeLine?_short {time : Int} (short : Short time) :
    timeLine? time = some (timeMark ++ Text.ofInt time ++ "\n") := by
  have written : Text.ofInt? time = some (Text.ofInt time) := if_pos short
  rw [timeLine?, written]
  rfl

theorem timeLine?_long {time : Int} (long : ¬ Short time) : timeLine? time = none := by
  have unwritten : Text.ofInt? time = none := if_neg long
  rw [timeLine?, unwritten]
  rfl

/-- Times that are not negative, with no more digits than a number may have. -/
def Readable (time : Int) : Prop := 0 ≤ time ∧ (Text.ofNat time.toNat).length ≤ Text.digitLimit

instance (time : Int) : Decidable (Readable time) := inferInstanceAs (Decidable (_ ∧ _))

theorem Readable.short {time : Int} (readable : Readable time) : Short time := by
  obtain ⟨n, rfl⟩ := Int.eq_ofNat_of_zero_le readable.1
  exact readable.2

theorem Readable.ofInt_eq {time : Int} (readable : Readable time) :
    Text.ofInt time = Text.ofNat time.toNat := by
  obtain ⟨n, rfl⟩ := Int.eq_ofNat_of_zero_le readable.1
  rfl

private theorem timeOf_ofInt {time : Int} (readable : Readable time) : timeOf
    (Text.ofInt time) = .ok time := by
  have filled : (Text.ofNat time.toNat).isEmpty = false := by
    rw [Text.ofNat_eq_toDigits]
    simp
  have digits : (Text.ofNat time.toNat).all Text.isDigit = true := by
    rw [List.all_eq_true]
    intro c inside
    rw [Text.isDigit, decimalValue?_digit (isDigit_of_mem_ofNat inside)]
    rfl
  have same : Text.trim (Text.ofNat time.toNat) = Text.ofNat time.toNat :=
    trim_eq fun _ inside => isBlank_of_isDigit (isDigit_of_mem_ofNat inside)
  simp only [timeOf, readable.ofInt_eq, same, filled, digits, natural?_ofNat readable.2]
  simp [Int.toNat_of_nonneg readable.1]

def recordLines (entry : Entry) : List Text :=
  [commandMark ++ escape entry.command, timeMark ++ Text.ofInt entry.time]

/-- An entry whose record can be read back. -/
structure Lasting (entry : Entry) : Prop where
  plain : Plain entry.command
  readable : Readable entry.time

private theorem unbroken_commandMark : Unbroken commandMark := by decide

private theorem unbroken_timeMark : Unbroken timeMark := by decide

namespace Lasting

variable {entry : Entry} (lasting : Lasting entry)

include lasting

theorem unbroken_command : Unbroken (commandMark ++ escape entry.command) :=
  unbroken_commandMark.append (unbroken_escape lasting.plain)

theorem unbroken_time : Unbroken (timeMark ++ Text.ofInt entry.time) := by
  refine unbroken_timeMark.append fun c inside => ?_
  rw [lasting.readable.ofInt_eq] at inside
  exact isLineBreak_of_isDigit (isDigit_of_mem_ofNat inside)

end Lasting

theorem record_eq {entry : Entry} (short : Short entry.time) (rest : Text) :
    record entry ++ rest = (commandMark ++ escape entry.command) ++
      '\n' :: ((timeMark ++ Text.ofInt entry.time) ++ '\n' :: rest) := by
  rw [record, timeLine?_short short]
  simp [commandLine]

theorem record_short {entry : Entry} (short : Short entry.time) :
    record entry = (recordLines entry).flatMap fun line => line ++ ['\n'] := by
  rw [← List.append_nil (record entry), record_eq short]
  simp only [recordLines, List.flatMap_cons, List.flatMap_nil, List.append_assoc, List.singleton_append]

theorem lines_record {entry : Entry} (lasting : Lasting entry) (rest : Text) :
    Text.lines (record entry ++ rest) = recordLines entry ++ Text.lines rest := by
  rw [record_eq lasting.readable.short, lines_line lasting.unbroken_command, lines_line lasting.unbroken_time]
  rfl

theorem lines_records {entries : List Entry} (lasting : ∀ entry ∈ entries, Lasting entry) (rest : Text) :
    Text.lines (entries.flatMap record ++ rest) = entries.flatMap recordLines ++ Text.lines rest := by
  induction entries with
  | nil => rfl
  | cons entry more ih =>
    obtain ⟨first, lasting⟩ := List.forall_mem_cons.mp lasting
    rw [List.flatMap_cons, List.append_assoc, lines_record first, ih lasting, List.flatMap_cons,
      List.append_assoc]

theorem dropStart?_mark (mark rest : Text) : Text.dropStart? mark (mark ++ rest) = some rest :=
  Text.dropStart?_eq_some_iff.mpr rfl

theorem time_unmarked (raw : Text) : Text.dropStart? commandMark (timeMark ++ raw) = none := rfl

theorem timeBehind_time {time : Int} (readable : Readable time) (rest : List Text) :
    timeBehind ((timeMark ++ Text.ofInt time) :: rest) = .ok time := by
  rw [timeBehind, time_unmarked, dropStart?_mark]
  exact timeOf_ofInt readable

private theorem records_recordLines {entry : Entry} (readable : Readable entry.time) (rest : List Text) :
    records (recordLines entry ++ rest) = (entry :: ·) <$> records rest := by
  simp only [recordLines, List.cons_append, List.nil_append, records, dropStart?_mark,
    timeBehind_time readable, time_unmarked, unescape_escape]
  cases records rest with
  | ok later => rfl
  | error fault => rfl

theorem records_written {entries : List Entry} (timely : ∀ entry ∈ entries, Readable entry.time) :
    records (entries.flatMap recordLines) = .ok entries := by
  induction entries with
  | nil => rfl
  | cons entry more ih =>
    obtain ⟨first, timely⟩ := List.forall_mem_cons.mp timely
    rw [List.flatMap_cons, records_recordLines first, ih timely]
    rfl

private theorem timeBehind_append {line raw : Text} (marked : Text.dropStart? commandMark line = some raw)
    (front rest : List Text) : timeBehind (front ++ line :: rest) = timeBehind front := by
  induction front with
  | nil => simp only [List.nil_append, timeBehind, marked, Option.isSome_some, if_true]
  | cons first more ih => simp only [List.cons_append, timeBehind, ih]

theorem records_append {line raw : Text} (marked : Text.dropStart? commandMark line = some raw)
    (front rest : List Text) :
    records (front ++ line :: rest) = do
      let earlier ← records front
      let later ← records (line :: rest)
      return earlier ++ later := by
  induction front with
  | nil =>
    rw [List.nil_append]
    cases records (line :: rest) with
    | ok later => rfl
    | error fault => rfl
  | cons first more ih =>
    rw [List.cons_append]
    cases command : Text.dropStart? commandMark first with
    | none =>
      rw [records_skip command, records_skip command]
      exact ih
    | some raw =>
      rw [records_command command, records_command command, timeBehind_append marked, ih]
      cases timeBehind more with
      | error fault => rfl
      | ok time =>
        cases records more with
        | error fault => rfl
        | ok earlier =>
          cases records (line :: rest) with
          | ok later => rfl
          | error fault => rfl

theorem records_record {entry : Entry} (readable : Readable entry.time) {front : List Text}
    {earlier : List Entry} (read : records front = .ok earlier) :
    records (front ++ recordLines entry) = .ok (earlier ++ [entry]) := by
  have last : records (recordLines entry) = .ok [entry] := records_recordLines readable []
  rw [recordLines] at last ⊢
  rw [records_append (dropStart?_mark commandMark _), read, last]
  rfl

theorem push_plain {history : History} (plain : ∀ entry ∈ history.entries, Plain entry.command)
    {entry : Entry} (last : Plain entry.command) :
    ∀ other ∈ (history.push entry).entries, Plain other.command := by
  intro other inside
  rcases List.mem_append.mp inside with kept | new
  · split at kept
    · exact plain other (List.mem_of_mem_drop kept)
    · exact plain other kept
  · rwa [List.mem_singleton.mp new]

/-- No command that was read from lines has a break in it that ends a line, but for line feeds. -/
theorem replay_plain {history : History} {pending : Option Text} {lines : List Text}
    (plain : ∀ entry ∈ history.entries, Plain entry.command) (waits : ∀ command ∈ pending, Plain command)
    (unbroken : ∀ line ∈ lines, Unbroken line) :
    ∀ entry ∈ (replay history pending lines).1.entries, Plain entry.command := by
  have behind {mark line raw : Text} (marked : Text.dropStart? mark line = some raw)
      (unbroken : Unbroken line) : Unbroken raw := by
    obtain rfl := Text.dropStart?_eq_some_iff.mp marked
    exact fun c inside => unbroken c (List.mem_append_right mark inside)
  fun_induction replay history pending lines with
  | case1 history => exact plain
  | case2 history command => exact push_plain plain (waits command rfl)
  | case3 history pending line rest raw marked pushed ih =>
    obtain ⟨here, later⟩ := List.forall_mem_cons.mp unbroken
    refine ih ?_ ?_ later
    · cases pending with
      | none => exact plain
      | some command => exact push_plain plain (waits command rfl)
    · rintro _ ⟨⟩
      exact plain_unescape (behind marked here)
  | case4 history line rest unmarked command raw timed time read ih =>
    exact ih (push_plain plain (waits command rfl)) nofun (List.forall_mem_cons.mp unbroken).2
  | case5 => exact plain
  | case6 history pending line rest unmarked other ih =>
    exact ih plain waits (List.forall_mem_cons.mp unbroken).2

def textOf (content : Bytes) : Text := Text.plainBreaks (Utf8.decode content)

private theorem head?_records (entries : List Entry) : ∀ c ∈ (entries.flatMap record).head?, c = '-' := by
  cases entries with
  | nil => nofun
  | cons entry more =>
    intro c first
    exact (Option.some.inj first).symm

private theorem carriage_notMem {entries : List Entry} (lasting : ∀ entry ∈ entries, Lasting entry) :
    '\r' ∉ entries.flatMap record := by
  intro inside
  obtain ⟨entry, member, inside⟩ := List.mem_flatMap.mp inside
  have breaks : Text.isLineBreak '\r' = true := rfl
  rw [← List.append_nil (record entry), record_eq (lasting entry member).readable.short] at inside
  rcases List.mem_append.mp inside with command | rest
  · cases breaks.symm.trans ((lasting entry member).unbroken_command _ command)
  rcases List.mem_append.mp (List.mem_of_ne_of_mem (by decide) rest) with time | last
  · cases breaks.symm.trans ((lasting entry member).unbroken_time _ time)
  · cases List.mem_singleton.mp last

/-- Records are read as they were written, whatever bytes stand before them. -/
theorem textOf_append {entries : List Entry} (lasting : ∀ entry ∈ entries, Lasting entry)
    (content : Bytes) :
    textOf (content ++ Utf8.encode (entries.flatMap record)) =
      textOf content ++ entries.flatMap record := by
  have low : ∀ c ∈ (entries.flatMap record).head?, c.toNat < 0x80 := by
    intro c first
    rw [head?_records entries c first]
    decide
  have no_feed : (entries.flatMap record).head? ≠ some '\n' := by
    intro first
    cases head?_records entries '\n' first
  rw [textOf, Utf8Text.decode_append low, plainBreaks_append no_feed,
    plainBreaks_eq (carriage_notMem lasting)]
  rfl

end CommandShell.Proofs.HistoryRecords
