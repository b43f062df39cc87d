import CommandShell.History
import CommandShell.Proofs.ActSteps
import CommandShell.Proofs.FolderWalks

/-! The file of the history. Recording a command makes the folder of the file if it is not there. If
it is, recording changes no folder, and it never fails. -/

namespace CommandShell.Proofs.HistoryFile
open ActSteps FolderWalks

def Housed (path : Path) (files : Files) : Prop :=
  ∃ place closed, files.find path.parent.text = .ok (place, .folder closed)

/-- The folder of a file is there, and the file can be named. -/
structure InPlace (path : Path) (files : Files) : Prop where
  named : path.text.contains '\x00' = false
  housed : Housed path files

private theorem join_dropLast_front (sep : Text) (parts : List Text) :
    Text.join sep parts.dropLast <+: Text.join sep parts := by
  match parts with
  | [] => exact List.prefix_rfl
  | [part] => exact List.nil_prefix
  | first :: second :: rest =>
    have ih := join_dropLast_front sep (second :: rest)
    simp only [Text.join, List.dropLast_cons_cons, List.intercalate_cons_cons] at ih ⊢
    cases more : (second :: rest).dropLast with
    | nil =>
      rw [List.intercalate_singleton, List.append_assoc]
      exact List.prefix_append _ _
    | cons next others =>
      rw [more] at ih
      rw [List.intercalate_cons_cons]
      exact (List.prefix_append_right_inj _).mpr ih

theorem text_of_filled {root : Text} {parts : List Text} (filled : ¬ (root = [] ∧ parts = [])) :
    Path.text ⟨root, parts⟩ = root ++ Text.join "/" parts := by
  unfold Path.text
  split
  next empty none => exact absurd ⟨empty, none⟩ filled
  next => rfl

theorem parent_named {path : Path} (named : path.text.contains '\x00' = false) :
    path.parent.text.contains '\x00' = false := by
  obtain ⟨root, parts⟩ := path
  rw [Path.parent]
  dsimp only
  by_cases empty : root = [] ∧ parts.dropLast = []
  · obtain ⟨rfl, none⟩ := empty
    rw [none]
    rfl
  · have filled : ¬ (root = [] ∧ parts = []) := by
      rintro ⟨rfl, rfl⟩
      exact empty ⟨rfl, rfl⟩
    have front : Path.text ⟨root, parts.dropLast⟩ <+: Path.text ⟨root, parts⟩ := by
      rw [text_of_filled empty, text_of_filled filled]
      exact (List.prefix_append_right_inj root).mpr (join_dropLast_front "/" parts)
    rw [Bool.eq_false_iff, ne_eq, List.contains_iff_mem] at named ⊢
    exact fun inside => named (front.subset inside)

/-- The world after something was written into the file of the history. -/
def Recorded (world after : World) : Prop :=
  ∃ files journal, after = { world with files, journal } ∧ SameFolders world.files files ∧
    files.here = world.files.here

private theorem on_ensureFolders {path : Path} {world : World} (named : path.text.contains '\x00' = false)
    {place : Place} {closed : Bool} (found : world.files.find path.text = .ok (place, .folder closed)) :
    (World.ensureFolders path).on world = (.ok ⟨⟩, world) := by
  have missing : ¬ path.text.contains '\x00' = true := Bool.eq_false_iff.mp named
  rw [World.ensureFolders, if_neg missing, on_bind, on_get]
  dsimp only
  rw [ensureFolders_of_find found]
  rfl

private theorem on_appendText {path : Text} (text : Text) (world : World)
    (named : path.contains '\x00' = false) :
    ∃ result after, (World.appendText path text).on world = (result, after) ∧
      Recorded world after ∧ (result = .ok ⟨⟩ ∨ ∃ problem, result = .error (.file problem path)) := by
  have missing : ¬ path.contains '\x00' = true := Bool.eq_false_iff.mp named
  simp only [World.appendText, World.editAt, World.atPath, if_neg missing, on_bind, on_get]
  cases written : world.files.append path (Utf8.encode text) with
  | error problem =>
    exact ⟨_, _, rfl, ⟨world.files, world.journal, rfl, .refl _, rfl⟩, .inr ⟨problem, rfl⟩⟩
  | ok files =>
    obtain ⟨same, here⟩ := SameFolders.change written
    exact ⟨_, _, rfl, ⟨files, world.journal, rfl, same, here⟩, .inl rfl⟩

private theorem length_now (world : World) : (Text.ofNat world.now.natAbs).length ≤ 19 := by
  have least := world.clock.minValue_le_toInt
  have most := world.clock.toInt_lt
  have bound : Int64.minValue.toInt = -9223372036854775808 := by decide
  have small : world.now.natAbs < 10 ^ 19 := by
    unfold World.now
    dsimp only
    split
    next before =>
      have negative : world.clock.toInt < 0 := by simpa using (Bool.and_eq_true_iff.mp before).1
      omega
    next => omega
  rw [Text.ofNat_eq_toDigits]
  exact (Nat.length_toDigits_le_iff (by decide) (by decide)).mpr small

private theorem timeLine?_now (world : World) : (History.timeLine? world.now).isNone = false := by
  have few : (Text.ofNat world.now.natAbs).length ≤ Text.digitLimit :=
    Nat.le_trans (length_now world) (by decide)
  rw [History.timeLine?, Text.ofInt?, if_pos few]
  rfl

/-- The command gets its entry, whatever comes of the recording. -/
theorem run_add_accepted {history : History} {command : Text} (accepted : history.accepts command = true)
    (time : Option Int) {world after : World} {result : Except Fault Unit}
    (written : (history.writeRecord ⟨command, time.getD world.now⟩).on world = (result, after)) :
    (history.add command time).run world =
      ((history.push ⟨command, time.getD world.now⟩, result.map fun _ => true), after) := by
  have ran : (history.add command time).run world =
      ((history.push ⟨command, time.getD world.now⟩,
        ((history.writeRecord ⟨command, time.getD world.now⟩).on world).1.map fun _ => true),
        ((history.writeRecord ⟨command, time.getD world.now⟩).on world).2) := by
    rw [History.add, if_pos accepted]
    rfl
  rw [ran, written]

theorem run_add_refused {history : History} {command : Text} (refused : ¬ history.accepts command = true)
    (time : Option Int) (world : World) :
    (history.add command time).run world = ((history, .ok false), world) := by
  rw [History.add, if_neg refused]
  rfl

/-- A history is as it was after a command was added, or has one more entry. -/
theorem add_cases (history : History) (command : Text) (time : Option Int) (world : World) :
    (history.add command time).run world = ((history, .ok false), world) ∨
      ∃ entry result after, (history.add command time).run world = ((history.push entry, result), after) := by
  by_cases accepted : history.accepts command = true
  · exact .inr ⟨_, _, _, run_add_accepted accepted time rfl⟩
  · exact .inl (run_add_refused accepted time world)

private theorem on_writeRecord {history : History} {world : World}
    (kept : ∀ path ∈ history.file, InPlace path world.files) {entry : Entry}
    (short : (History.timeLine? entry.time).isNone = false) :
    ∃ after, (history.writeRecord entry).on world = (.ok ⟨⟩, after) ∧ Recorded world after := by
  have whole : ¬ (History.timeLine? entry.time).isNone = true := Bool.eq_false_iff.mp short
  unfold History.writeRecord
  cases stored : history.file with
  | none => exact ⟨world, rfl, world.files, world.journal, rfl, .refl _, rfl⟩
  | some path =>
    obtain ⟨named, place, closed, found⟩ := kept path (by rw [stored]; rfl)
    obtain ⟨result, after, written, recorded, outcome⟩ := on_appendText (History.record entry) world named
    simp only [on_bind, on_attempt, on_ensureFolders (parent_named named) found, written, if_neg whole]
    obtain rfl | ⟨problem, rfl⟩ := outcome
    · exact ⟨after, rfl, recorded⟩
    · obtain ⟨files, journal, rfl, same, here⟩ := recorded
      exact ⟨_, rfl, files, _, rfl, same, here⟩

theorem run_add_kept {history : History} {world : World}
    (kept : ∀ path ∈ history.file, InPlace path world.files) (command : Text) :
    ∃ added more after, (history.add command none).run world = ((added, .ok more), after) ∧
      added.file = history.file ∧ Recorded world after := by
  by_cases accepted : history.accepts command = true
  · have short : (History.timeLine? (⟨command, world.now⟩ : Entry).time).isNone = false := timeLine?_now world
    obtain ⟨after, written, recorded⟩ := on_writeRecord kept short
    exact ⟨_, _, after, run_add_accepted accepted none written, rfl, recorded⟩
  · exact ⟨history, false, world, run_add_refused accepted none world, rfl, world.files, world.journal, rfl,
      .refl _, rfl⟩

theorem run_add_written {history : History} {path : Path} {command : Text} {world : World}
    {made files : Files} (stored : history.file = some path) (accepted : history.accepts command = true)
    (named : path.text.contains '\x00' = false)
    (makes : world.files.ensureFolders path.parent.root path.parent.parts.reverse = (made, .ok ()))
    (writes : made.append path.text (Utf8.encode (History.record ⟨command, world.now⟩)) = .ok files) :
    (history.add command none).run world =
      ((history.push ⟨command, world.now⟩, .ok true), { world with files }) := by
  have missing : ¬ path.text.contains '\x00' = true := Bool.eq_false_iff.mp named
  have missing' : ¬ path.parent.text.contains '\x00' = true := Bool.eq_false_iff.mp (parent_named named)
  have whole : ¬ (History.timeLine? world.now).isNone = true := Bool.eq_false_iff.mp (timeLine?_now world)
  have written : (history.writeRecord ⟨command, world.now⟩).on world = (.ok ⟨⟩, { world with files }) := by
    simp only [History.writeRecord, stored, on_bind, on_get, on_attempt, World.ensureFolders, if_neg missing',
      makes, World.appendText, World.editAt, World.atPath, if_neg missing, on_modify, on_pure, writes,
      if_neg whole]
  exact run_add_accepted accepted none written

theorem run_add_unnamed {history : History} {path : Path} {command : Text} {world : World}
    (stored : history.file = some path) (accepted : history.accepts command = true)
    (unnamed : path.text.contains '\x00' = true) (housed : Housed path world.files) :
    (history.add command none).run world =
      ((history.push ⟨command, world.now⟩, .error .nullInPath), world) := by
  obtain ⟨place, closed, found⟩ := housed
  have folder : (World.ensureFolders path.parent).on world = (.error .nullInPath, world) ∨
      (World.ensureFolders path.parent).on world = (.ok ⟨⟩, world) := by
    by_cases null : path.parent.text.contains '\x00' = true
    · rw [World.ensureFolders, if_pos null]
      exact .inl rfl
    · exact .inr (on_ensureFolders (Bool.eq_false_iff.mpr null) found)
  have written : (history.writeRecord ⟨command, world.now⟩).on world = (.error .nullInPath, world) := by
    simp only [History.writeRecord, stored, on_bind, on_attempt]
    obtain folder | folder := folder
    · rw [folder]
      rfl
    · rw [folder]
      simp only [World.appendText, World.editAt, World.atPath, if_pos unnamed, on_bind, on_throw]
      rfl
  exact run_add_accepted accepted none written

theorem inPlace_same {path : Path} {files other : Files} (same : SameFolders files other)
    (here : files.here = other.here) (inPlace : InPlace path files) : InPlace path other := by
  obtain ⟨named, place, closed, found⟩ := inPlace
  refine ⟨named, place, closed, same.find ?_ found⟩
  rw [here]

theorem inPlace_absolute {path : Path} {files other : Files} (same : SameFolders files other)
    (absolute : Path.isAbsolute path.root = true) (inPlace : InPlace path files) : InPlace path other := by
  obtain ⟨named, place, closed, found⟩ := inPlace
  have starts (here : Place) : Files.start path.parent.text here = [] := by
    obtain ⟨root, parts⟩ := path
    cases root with
    | nil => cases absolute
    | cons c rest =>
      rw [Path.parent, text_of_filled (by simp)]
      exact if_pos absolute
  refine ⟨named, place, closed, same.find ?_ found⟩
  rw [starts, starts]

end CommandShell.Proofs.HistoryFile
