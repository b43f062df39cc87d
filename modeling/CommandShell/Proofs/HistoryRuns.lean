import CommandShell.Proofs.FileReads
import CommandShell.Proofs.FileWrites
import CommandShell.Proofs.HistoryRecords

/-! A history and its file through any sequence of additions and loadings. -/

namespace CommandShell.Proofs.HistoryRuns
open ActSteps FileReads FileWrites FolderWalks HistoryFile HistoryRecords TextLines

/-- There is a file with a content, and it can be written. -/
structure Writable (path : Path) (content : Bytes) (files : Files) : Prop where
  named : path.text.contains '\x00' = false
  housed : Housed path files
  found : ∃ place access, files.find path.text = .ok (place, .file content access) ∧ access ≠ .closed

/-- There is no file, and it can be made, with the folders that it lies in. -/
structure Free (path : Path) (files : Files) : Prop where
  named : path.text.contains '\x00' = false
  absent : files.occupied path.text = .ok false
  room : ∃ made folder name,
    files.ensureFolders path.parent.root path.parent.parts.reverse = (made, .ok ()) ∧
      made.spot true path.text = .ok (.free folder name)

def filed (content : Bytes) : Files := { nodes := [(["h"], .file content .plain)] }

theorem writable_filed (content : Bytes) : Writable ⟨"/", ["h"]⟩ content (filed content) where
  named := rfl
  housed := ⟨[], false, rfl⟩
  found := ⟨["h"], .plain, rfl, nofun⟩

theorem free_in_root {name : Text} (named : (Path.text ⟨"/", [name]⟩).contains '\x00' = false)
    (led : Files.spot {} true (Path.text ⟨"/", [name]⟩) = .ok (.free [] name)) : Free ⟨"/", [name]⟩ {} := by
  have absent : Files.occupied {} (Path.text ⟨"/", [name]⟩) = .ok false := by
    rw [Files.occupied, Files.find, led]
    rfl
  exact ⟨named, absent, {}, [], name, ensureFolders_of_find (find_root {}), led⟩

theorem free_empty : Free ⟨"/", ["h"]⟩ {} := free_in_root rfl rfl

/-- What a file holds: nothing where there is none. -/
def Stored (path : Path) (files : Files) : Option Bytes → Prop
  | some content => Writable path content files
  | none => Free path files

def grown (stored : Option Bytes) (entries : List Entry) : Option Bytes :=
  if entries.isEmpty then stored
  else some (stored.getD [] ++ Utf8.encode (entries.flatMap History.record))

private theorem getD_grown (stored : Option Bytes) (entries : List Entry) :
    (grown stored entries).getD [] =
      stored.getD [] ++ Utf8.encode (entries.flatMap History.record) := by
  cases entries with
  | nil => exact (List.append_nil _).symm
  | cons => rfl

def linesIn (stored : Option Bytes) : List Text := Text.lines (textOf (stored.getD []))

theorem Stored.named {path : Path} {files : Files} {stored : Option Bytes}
    (holds : Stored path files stored) : path.text.contains '\x00' = false := by
  cases stored with
  | none => exact Free.named holds
  | some => exact Writable.named holds

/-- A file is changed once its folder was made sure of. -/
structure Changes (path : Path) (edit : Bytes → Bytes) (files after : Files) : Prop where
  named : path.text.contains '\x00' = false
  written : ∃ made, files.ensureFolders path.parent.root path.parent.parts.reverse = (made, .ok ()) ∧
    made.change path.text edit = .ok after

private theorem housed_of_ensured {path : Path} {files made : Files}
    (ensured : files.ensureFolders path.parent.root path.parent.parts.reverse = (made, .ok ())) :
    Housed path made := by
  have housed := find_ensureFolders ensured
  rwa [List.reverse_reverse] at housed

theorem writable_of_change {path : Path} {edit : Bytes → Bytes} {files after : Files} {place : Place}
    {content : Bytes} {access : Access} (named : path.text.contains '\x00' = false) (housed : Housed path files)
    (written : files.change path.text edit = .ok after)
    (found : after.find path.text = .ok (place, .file content access)) (opens : access ≠ .closed) :
    Writable path content after := by
  obtain ⟨parent, closed, housed⟩ := housed
  obtain ⟨same, here⟩ := SameFolders.change written
  have still := same.find (by rw [here]) housed
  exact ⟨named, ⟨parent, closed, still⟩, place, access, found, opens⟩

theorem Writable.change {path : Path} {content : Bytes} {files : Files} (held : Writable path content files)
    (edit : Bytes → Bytes) : ∃ after, Changes path edit files after ∧ Writable path (edit content) after := by
  obtain ⟨named, ⟨parent, closed, housed⟩, place, access, found, opens⟩ := held
  obtain ⟨after, written, found⟩ := find_change found opens edit
  exact ⟨after, ⟨named, files, ensureFolders_of_find housed, written⟩,
    writable_of_change named ⟨parent, closed, housed⟩ written found opens⟩

theorem Free.change {path : Path} {files : Files} (free : Free path files) (edit : Bytes → Bytes) :
    ∃ after, Changes path edit files after ∧ Writable path (edit []) after := by
  obtain ⟨named, -, made, folder, name, ensured, led⟩ := free
  obtain ⟨after, written, found⟩ := find_change_free led edit
  exact ⟨after, ⟨named, made, ensured, written⟩,
    writable_of_change named (housed_of_ensured ensured) written found nofun⟩

/-- Whether a file can be changed does not depend on what it gets. -/
theorem Changes.rewrite {path : Path} {edit : Bytes → Bytes} {files after : Files}
    (changes : Changes path edit files after) (other : Bytes → Bytes) :
    ∃ content rewritten, Changes path other files rewritten ∧ Writable path (other content) rewritten := by
  obtain ⟨named, made, ensured, written⟩ := changes
  have housed := housed_of_ensured ensured
  obtain ⟨folder, name, led, -⟩ | ⟨place, content, access, found, opens, -⟩ := change_cases written
  · obtain ⟨rewritten, changed, found⟩ := find_change_free led other
    exact ⟨[], rewritten, ⟨named, made, ensured, changed⟩, writable_of_change named housed changed found nofun⟩
  · obtain ⟨rewritten, changed, found⟩ := find_change found opens other
    exact ⟨content, rewritten, ⟨named, made, ensured, changed⟩,
      writable_of_change named housed changed found opens⟩

theorem Stored.change {path : Path} {files : Files} {stored : Option Bytes}
    (holds : Stored path files stored) (edit : Bytes → Bytes) :
    ∃ after, Changes path edit files after ∧ Writable path (edit (stored.getD [])) after := by
  cases stored with
  | none => exact Free.change holds edit
  | some content => exact Writable.change holds edit

theorem Changes.on_change {path : Path} {edit : Bytes → Bytes} {world : World} {files : Files}
    (changes : Changes path edit world.files files) :
    (do
      World.ensureFolders path.parent
      World.editAt path.text (·.change path.text edit)).on world = (.ok ⟨⟩, { world with files }) := by
  obtain ⟨named, made, ensured, written⟩ := changes
  have missing : ¬ path.text.contains '\x00' = true := Bool.eq_false_iff.mp named
  have missing' : ¬ path.parent.text.contains '\x00' = true := Bool.eq_false_iff.mp (parent_named named)
  simp only [on_bind, World.ensureFolders, if_neg missing', on_get, ensured, World.editAt, World.atPath,
    if_neg missing, on_modify, on_pure, written]

/-- How recording ends where the file can be written. -/
def recordEnd (time : Int) : Except Fault Unit := if Short time then .ok ⟨⟩ else .error .tooManyDigits

private theorem on_writeRecord_stored {store : History} {path : Path} {world : World} {stored : Option Bytes}
    (keeps : store.file = some path) (holds : Stored path world.files stored) (entry : Entry) :
    ∃ files, (store.writeRecord entry).on world = (recordEnd entry.time, { world with files }) ∧
      Writable path (stored.getD [] ++ Utf8.encode (History.record entry)) files := by
  obtain ⟨files, changes, held⟩ := holds.change (· ++ Utf8.encode (History.record entry))
  refine ⟨files, ?_, held⟩
  have appended : (do
      World.ensureFolders path.parent
      World.appendText path.text (History.record entry)).on world = (.ok ⟨⟩, { world with files }) :=
    changes.on_change
  simp only [History.writeRecord, keeps]
  rw [on_bind, on_attempt, ← bind_assoc, on_bind, appended, recordEnd]
  dsimp only
  by_cases short : Short entry.time
  · rw [timeLine?_short short, if_pos short]
    rfl
  · rw [timeLine?_long short, if_neg short]
    rfl

theorem run_bind_of {σ α β : Type} {first : StateM σ α} {state after : σ} {value : α}
    (ran : first.run state = (value, after)) (next : α → StateM σ β) :
    (first >>= next).run state = (next value).run after := by
  rw [StateT.run_bind, ran]
  rfl

theorem run_load_refused (store : History) {path : Path} {world : World} {problem : FileProblem}
    (keeps : store.file = some path) (refused : finding world.files path.text = .refused problem) :
    (store.load.run world).1.2 = .error (.file problem path.text) := by
  obtain ⟨named, asked⟩ := refused_iff.mp refused
  unfold History.load
  simp only [keeps]
  rw [run_bind_of (on_occupied named), asked]
  rfl

/-- Loading reads the lines of what is found and changes nothing but the journal. -/
theorem run_load_found (store : History) {path : Path} {world : World} (keeps : store.file = some path)
    (found : ∀ problem, finding world.files path.text ≠ .refused problem) :
    ∃ journal, store.load.run world =
      (History.replay { store with entries := [] } none (finding world.files path.text).lines,
        { world with journal }) := by
  unfold History.load
  simp only [keeps]
  unfold finding at found ⊢
  cases named : path.text.contains '\x00' with
  | true =>
    rw [run_bind_of (on_occupied_null named)]
    exact ⟨world.journal, rfl⟩
  | false =>
    simp only [named, Bool.false_eq_true, if_false] at found ⊢
    rw [run_bind_of (on_occupied named)]
    cases asked : world.files.occupied path.text with
    | error problem =>
      rw [asked] at found
      exact absurd rfl (found problem)
    | ok there =>
      cases there with
      | false => exact ⟨world.journal, rfl⟩
      | true =>
        dsimp only [Except.mapError]
        rw [run_bind_of (on_readLossy named)]
        cases world.files.read path.text with
        | error problem => exact ⟨_, rfl⟩
        | ok bytes =>
          dsimp only [Except.map, Except.mapError]
          split
          · exact ⟨_, rfl⟩
          · exact ⟨world.journal, rfl⟩

theorem Stored.finds {path : Path} {files : Files} {stored : Option Bytes} (holds : Stored path files stored) :
    (∀ problem, finding files path.text ≠ .refused problem) ∧
      (finding files path.text).lines = linesIn stored := by
  cases stored with
  | none =>
    rw [finding_of_absent (Free.absent holds)]
    exact ⟨nofun, rfl⟩
  | some content =>
    obtain ⟨place, access, found, opens⟩ := Writable.found holds
    rw [finding_of_find holds.named found opens]
    exact ⟨nofun, rfl⟩

theorem run_load {store : History} {path : Path} {world : World} {stored : Option Bytes}
    (keeps : store.file = some path) (holds : Stored path world.files stored) :
    ∃ journal, store.load.run world =
      (History.replay { store with entries := [] } none (linesIn stored), { world with journal }) := by
  obtain ⟨found, lines⟩ := holds.finds
  rw [← lines]
  exact run_load_found store keeps found

def newest (store : History) (entries : List Entry) : History :=
  { store with entries := entries.rtake store.most }

private theorem push_newest (store : History) (entries : List Entry) (entry : Entry) :
    (newest store entries).push entry = newest store (entries ++ [entry]) :=
  push_rtake store entries entry

private theorem replay_newest (store : History) (lines : List Text) :
    match records lines with
    | .ok entries => History.replay { store with entries := [] } none lines = (newest store entries, .ok ())
    | .error fault => (History.replay { store with entries := [] } none lines).2 = .error fault := by
  have read := replay_records { store with entries := [] } lines
  cases found : records lines with
  | error fault =>
    rw [found] at read
    exact read
  | ok entries =>
    rw [found] at read
    have pushed := foldl_push store [] entries
    rw [List.rtake_nil, List.nil_append] at pushed
    exact read.trans (by rw [pushed]; rfl)

theorem load_of_replay {store : History} {lines : List Text} {world : World}
    (loaded : ∃ journal, store.load.run world =
      (History.replay { store with entries := [] } none lines, { world with journal })) :
    match records lines with
    | .ok seen => ∃ journal, store.load.run world = ((newest store seen, .ok ()), { world with journal })
    | .error fault => (store.load.run world).1.2 = .error fault := by
  obtain ⟨journal, loaded⟩ := loaded
  have read := replay_newest store lines
  rw [loaded]
  cases found : records lines with
  | error fault =>
    rw [found] at read
    exact read
  | ok seen =>
    rw [found] at read
    exact ⟨journal, by rw [read]⟩

theorem run_load_records {store : History} {path : Path} {world : World} {stored : Option Bytes}
    (keeps : store.file = some path) (holds : Stored path world.files stored) :
    match records (linesIn stored) with
    | .ok seen => ∃ journal, store.load.run world = ((newest store seen, .ok ()), { world with journal })
    | .error fault => (store.load.run world).1.2 = .error fault :=
  load_of_replay (run_load keeps holds)

inductive Operation
  | add (command : Text) (time : Option Int)
  | load

/-- A history, and how each addition to it ended. -/
structure Course where
  history : History
  endings : List (Except Fault Bool) := []

/-- An addition leaves a history also where it fails. Loading fails with the time that cannot be read. -/
def perform (course : Course) : Operation → Act World Course
  | .add command time => do
    let (history, ending) ← liftM (course.history.add command time)
    return ⟨history, course.endings ++ [ending]⟩
  | .load => do
    let (history, result) ← liftM course.history.load
    Act.ofExcept (result.map fun _ => ⟨history, course.endings⟩)

def performAll (history : History) (operations : List Operation) : Act World Course :=
  operations.foldlM perform { history }

/-- The entries that a history would hold without a limit, those that it wrote, and how the additions
ended. -/
structure Account where
  seen : List Entry := []
  written : List Entry := []
  endings : List (Except Fault Bool) := []

/-- How the addition of an entry ends. -/
def ending (time : Int) : Except Fault Bool := if Short time then .ok true else .error .tooManyDigits

/-- What an operation does to the entries. A command that is empty, or the same as the newest one
kept, gets no entry. Loading puts the entries of the file in place of all others. -/
def Account.step (stored : Option Bytes) (most : Nat) (now : Int) (account : Account) :
    Operation → Except Fault Account
  | .add command time =>
    if command = [] ∨ ((account.seen.rtake most).getLast?).map Entry.command = some command then
      .ok { account with endings := account.endings ++ [.ok false] }
    else
      let entry : Entry := ⟨command, time.getD now⟩
      .ok ⟨account.seen ++ [entry], account.written ++ [entry], account.endings ++ [ending entry.time]⟩
  | .load => do
    let seen ← records (linesIn (grown stored account.written))
    return { account with seen }

private theorem encode_append (first second : Text) :
    Utf8.encode (first ++ second) = Utf8.encode first ++ Utf8.encode second := List.flatMap_append

private theorem grown_concat (stored : Option Bytes) (entries : List Entry) (entry : Entry) :
    grown stored (entries ++ [entry]) =
      some ((grown stored entries).getD [] ++ Utf8.encode (History.record entry)) := by
  have some_entry : (entries ++ [entry]).isEmpty = false := by simp
  rw [getD_grown, grown, some_entry, List.flatMap_append, encode_append, List.append_assoc]
  simp

theorem accepts_newest (store : History) (entries : List Entry) (command : Text) :
    (newest store entries).accepts command = true ↔
      ¬ (command = [] ∨ ((entries.rtake store.most).getLast?).map Entry.command = some command) := by
  simp [History.accepts, History.last?, newest]

variable {store : History} {path : Path} {stored : Option Bytes}

private theorem map_recordEnd (time : Int) : ((recordEnd time).map fun _ => true) = ending time := by
  rw [recordEnd, ending]
  split
  · rfl
  · rfl

theorem ending_short {time : Int} (short : Short time) : ending time = .ok true := if_pos short

theorem run_add_stored (keeps : store.file = some path) {world : World}
    (holds : Stored path world.files stored) {entries : List Entry} {command : Text}
    (accepted : (newest store entries).accepts command = true) (time : Option Int) :
    let entry : Entry := ⟨command, time.getD world.now⟩
    ∃ files, ((newest store entries).add command time).run world =
        ((newest store (entries ++ [entry]), ending entry.time), { world with files }) ∧
      Writable path (stored.getD [] ++ Utf8.encode (History.record entry)) files := by
  intro entry
  have kept : (newest store entries).file = some path := keeps
  obtain ⟨files, written, held⟩ := on_writeRecord_stored kept holds entry
  refine ⟨files, ?_, held⟩
  rw [run_add_accepted accepted time written, map_recordEnd, push_newest]

def Account.course (account : Account) (store : History) : Course :=
  ⟨newest store account.seen, account.endings⟩

/-- One operation keeps the account right, or fails as the account does. -/
theorem perform_agrees (keeps : store.file = some path) {account : Account} {world : World}
    (holds : Stored path world.files (grown stored account.written)) (operation : Operation) :
    match account.step stored store.most world.now operation with
    | .error fault => ((perform (account.course store) operation).on world).1 = .error fault
    | .ok after => ∃ world', (perform (account.course store) operation).on world =
        (.ok (after.course store), world') ∧ world'.now = world.now ∧
          Stored path world'.files (grown stored after.written) := by
  cases operation with
  | add command time =>
    by_cases accepted : (newest store account.seen).accepts command = true
    · obtain ⟨files, added, held⟩ := run_add_stored keeps holds accepted time
      rw [Account.step, if_neg ((accepts_newest store account.seen command).mp accepted)]
      refine ⟨{ world with files }, ?_, rfl, ?_⟩
      · rw [perform, Account.course, on_bind, on_liftM, added]
        rfl
      · rw [grown_concat]
        exact held
    · have refused := not_not.mp (mt (accepts_newest store account.seen command).mpr accepted)
      rw [Account.step, if_pos refused]
      refine ⟨world, ?_, rfl, holds⟩
      rw [perform, Account.course, on_bind, on_liftM, run_add_refused accepted]
      rfl
  | load =>
    have kept : (newest store account.seen).file = some path := keeps
    have loaded := run_load_records kept holds
    simp only [Account.step, Account.course, perform, on_bind, on_liftM, on_ofExcept]
    cases found : records (linesIn (grown stored account.written)) with
    | error fault =>
      rw [found] at loaded
      rw [show _ = Except.error fault from loaded]
      rfl
    | ok seen =>
      rw [found] at loaded
      obtain ⟨journal, loaded⟩ := loaded
      rw [loaded]
      exact ⟨{ world with journal }, rfl, rfl, holds⟩

def Account.run (stored : Option Bytes) (most : Nat) (now : Int) (operations : List Operation)
    (account : Account) : Except Fault Account :=
  operations.foldlM (Account.step stored most now) account

private theorem performAll_agrees (keeps : store.file = some path) (operations : List Operation)
    (account : Account) {world : World}
    (holds : Stored path world.files (grown stored account.written)) :
    match account.run stored store.most world.now operations with
    | .error fault => ((operations.foldlM perform (account.course store)).on world).1 = .error fault
    | .ok after => ∃ world', (operations.foldlM perform (account.course store)).on world =
        (.ok (after.course store), world') ∧ Stored path world'.files (grown stored after.written) := by
  induction operations generalizing account world with
  | nil => exact ⟨world, rfl, holds⟩
  | cons operation rest ih =>
    have first := perform_agrees keeps holds operation
    simp only [Account.run, List.foldlM_cons, on_bind]
    cases stepped : account.step stored store.most world.now operation with
    | error fault =>
      rw [stepped] at first
      generalize (perform (account.course store) operation).on world = ran at first ⊢
      obtain ⟨result, world'⟩ := ran
      dsimp only at first
      subst first
      rfl
    | ok after =>
      rw [stepped] at first
      obtain ⟨world', ran, now, holds⟩ := first
      rw [ran]
      have later := ih after holds
      rw [now] at later
      exact later

/-- The additions all succeeded when the times that they wrote are short enough, and only then. -/
def Account.Settled (account : Account) : Prop :=
  (∀ result ∈ account.endings, ∃ accepted, result = .ok accepted) ↔
    ∀ entry ∈ account.written, Short entry.time

private theorem ofLimit_newest (path : Path) (limit : Int) :
    History.ofLimit (some path) limit = newest (History.ofLimit (some path) limit) [] := by
  rw [newest, List.rtake_nil]
  rfl

def additions (given : List Entry) : List Operation :=
  given.map fun entry => .add entry.command (some entry.time)

structure Account.Complete (account : Account) : Prop where
  same : account.seen = account.written
  lasting : ∀ entry ∈ account.written, Lasting entry
  done : ∀ result ∈ account.endings, ∃ accepted, result = .ok accepted

private theorem run_additions (stored : Option Bytes) (most : Nat) (now : Int) {given : List Entry}
    (lasting : ∀ entry ∈ given, Lasting entry) {account : Account} (complete : account.Complete) :
    ∃ after, account.run stored most now (additions given) = .ok after ∧ after.Complete := by
  induction given generalizing account with
  | nil => exact ⟨account, rfl, complete⟩
  | cons entry rest ih =>
    obtain ⟨first, lasting⟩ := List.forall_mem_cons.mp lasting
    obtain ⟨same, before, done⟩ := complete
    have ends {accepted : Bool} :
        ∀ result ∈ account.endings ++ [.ok accepted], ∃ accepted, result = .ok accepted :=
      List.forall_mem_append.mpr ⟨done, List.forall_mem_singleton.mpr ⟨accepted, rfl⟩⟩
    simp only [Account.run, additions, List.map_cons, List.foldlM_cons, Account.step]
    split
    · exact ih lasting ⟨same, before, ends⟩
    · refine ih lasting ⟨by rw [same], ?_, ?_⟩
      · exact List.forall_mem_append.mpr ⟨before, List.forall_mem_singleton.mpr first⟩
      · rw [Option.getD_some, ending_short first.readable.short]
        exact ends

private theorem records_linesIn {entries : List Entry} (lasting : ∀ entry ∈ entries, Lasting entry) :
    records (linesIn (grown none entries)) = .ok entries := by
  have text := textOf_append lasting []
  have lines := lines_records lasting []
  rw [List.append_nil] at lines
  rw [linesIn, getD_grown, Option.getD_none, text, show textOf [] = [] from rfl, List.nil_append, lines,
    show Text.lines [] = [] from rfl, List.append_nil,
    records_written fun entry member => (lasting entry member).readable]

private theorem load_plain (keeps : store.file = some path) {world : World}
    (holds : Stored path world.files stored) :
    ∀ entry ∈ (store.load.run world).1.1.entries, Plain entry.command := by
  obtain ⟨journal, loaded⟩ := run_load keeps holds
  rw [loaded]
  exact replay_plain nofun nofun fun _ => unbroken_of_mem

/-- What additions leave in a new file is what they leave in the history. -/
theorem additions_survive (keeps : store.file = some path) {world : World} (free : Free path world.files)
    {given : List Entry} (lasting : ∀ entry ∈ given, Lasting entry) :
    ∃ history endings after last,
      (performAll (newest store []) (additions given)).on world = (.ok ⟨history, endings⟩, after) ∧
        (∀ result ∈ endings, ∃ accepted, result = .ok accepted) ∧
        store.load.run after = ((history, .ok ()), last) := by
  have start : Stored path world.files (grown none ({} : Account).written) := free
  have agrees := performAll_agrees keeps (additions given) {} start
  have complete : ({} : Account).Complete := ⟨rfl, nofun, nofun⟩
  obtain ⟨account, ran, same, written, done⟩ := run_additions none store.most world.now lasting complete
  rw [ran] at agrees
  obtain ⟨after, performed, holds⟩ := agrees
  have loaded := run_load_records keeps holds
  rw [records_linesIn written] at loaded
  obtain ⟨journal, loaded⟩ := loaded
  exact ⟨_, _, after, _, performed, done, same ▸ loaded⟩

/-- A command with a break that is no line feed is added like any other. Nothing that is read from the
file has such a break in it. -/
theorem broken_lost (keeps : store.file = some path) {world : World}
    (holds : Stored path world.files stored) {entry : Entry} (broken : ¬ Plain entry.command) :
    ∃ history after,
      ((newest store []).add entry.command (some entry.time)).run world =
          ((history, ending entry.time), after) ∧
        (store.load.run after).1.1.entries ≠ [entry] := by
  have accepted : (newest store []).accepts entry.command = true := by
    rw [accepts_newest, List.rtake_nil]
    rintro (nothing | again)
    · exact broken (by simp [Plain, nothing])
    · cases again
  obtain ⟨files, added, held⟩ := run_add_stored keeps holds accepted (some entry.time)
  have stands : Stored path ({ world with files } : World).files (some _) := held
  have plain := load_plain keeps stands
  refine ⟨_, _, added, fun loaded => broken (plain entry ?_)⟩
  rw [loaded]
  exact List.mem_singleton_self entry

/-- Commands in which only line feeds end lines, with times that can be read, are kept over a restart:
the history that loads the file is the one that wrote it. A command with another break in it is never
read back as it was, whatever the file held. -/
theorem lasting_history_survives (limit : Int) {path : Path} {world : World}
    (free : Free path world.files) :
    let store := History.ofLimit (some path) limit
    (∀ given : List Entry, (∀ entry ∈ given, Lasting entry) →
      ∃ history endings after last,
        (performAll store (additions given)).on world = (.ok ⟨history, endings⟩, after) ∧
        (∀ result ∈ endings, ∃ accepted, result = .ok accepted) ∧
        store.load.run after = ((history, .ok ()), last)) ∧
    ∀ entry : Entry, ¬ Plain entry.command → ∀ stored world', Stored path world'.files stored →
      ∃ history after,
        (store.add entry.command (some entry.time)).run world' = ((history, ending entry.time), after) ∧
          (store.load.run after).1.1.entries ≠ [entry] := by
  intro store
  have keeps : store.file = some path := rfl
  have empty : store = newest store [] := ofLimit_newest path limit
  refine ⟨fun given lasting => ?_, fun entry broken stored world' holds => ?_⟩
  · obtain ⟨history, endings, after, last, performed, done, loaded⟩ := additions_survive keeps free lasting
    rw [← empty] at performed
    exact ⟨history, endings, after, last, performed, done, loaded⟩
  · obtain ⟨history, after, added, lost⟩ := broken_lost keeps holds broken
    rw [← empty] at added
    exact ⟨history, after, added, lost⟩

/-- Entries with a line feed and a backslash survive, one with a carriage return does not. -/
theorem broken_line_survives :
    Free ⟨"/", ["h"]⟩ {} ∧
    (∃ history endings after last, (performAll (History.ofLimit (some ⟨"/", ["h"]⟩) 1)
        (additions [⟨"a", 1⟩, ⟨"b\n\\n", 2⟩])).on {} = (.ok ⟨history, endings⟩, after) ∧
      (∀ result ∈ endings, ∃ accepted, result = .ok accepted) ∧
      (History.ofLimit (some ⟨"/", ["h"]⟩) 1).load.run after = ((history, .ok ()), last)) ∧
    ∃ history after, ((History.ofLimit (some ⟨"/", ["h"]⟩) 1).add "a\rb" (some 1)).run {} =
        ((history, .ok true), after) ∧
      ((History.ofLimit (some ⟨"/", ["h"]⟩) 1).load.run after).1.1.entries ≠ [⟨"a\rb", 1⟩] := by
  have plain : Plain "a" ∧ Plain "b\n\\n" ∧ ¬ Plain "a\rb" := by decide
  have lasting : ∀ entry ∈ ([⟨"a", 1⟩, ⟨"b\n\\n", 2⟩] : List Entry), Lasting entry := by
    simp only [List.forall_mem_cons, List.not_mem_nil, false_implies, implies_true, and_true]
    exact ⟨⟨plain.1, by decide⟩, ⟨plain.2.1, by decide⟩⟩
  have free : Free ⟨"/", ["h"]⟩ ({} : World).files := free_empty
  have survives := lasting_history_survives 1 free
  exact ⟨free, survives.1 _ lasting, survives.2 ⟨"a\rb", 1⟩ plain.2.2 none {} free_empty⟩

end CommandShell.Proofs.HistoryRuns
