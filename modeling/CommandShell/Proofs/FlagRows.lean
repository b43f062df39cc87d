import CommandShell.Completion.Flags
import CommandShell.Proofs.HistoryRecords
import CommandShell.Proofs.TextLines
import CommandShell.Proofs.Utf8Text

/-! The rows of flags that a manual page lists, and what they are read back as from the file that they
were written to. -/

namespace CommandShell.Proofs.FlagRows
open FlagCache HistoryRecords TextLines

section Trimming

variable {t : Text}

private theorem subset_trim : ∀ c ∈ Text.trim t, c ∈ t := by
  intro c inside
  have behind := (List.dropWhile_suffix Text.isBlank).subset (List.mem_reverse.mp inside)
  exact (List.dropWhile_suffix Text.isBlank).subset (List.mem_reverse.mp behind)

theorem trimStart_sharp {c : Char} (first : t.head? = some c) (sharp : Text.isBlank c = false) :
    Text.trimStart t = t := by
  obtain ⟨rest, rfl⟩ := List.head?_eq_some_iff.mp first
  exact List.dropWhile_cons_of_neg (by simp [sharp])

theorem head?_trim {c : Char} (first : t.head? = some c) (sharp : Text.isBlank c = false) :
    (Text.trim t).head? = some c := by
  have kept := trimStart_sharp first sharp
  obtain ⟨rest, rfl⟩ := List.head?_eq_some_iff.mp first
  have some_sharp : ∃ d ∈ rest.reverse ++ [c], ¬ Text.isBlank d = true :=
    ⟨c, List.mem_append_right _ (List.mem_singleton_self c), by simp [sharp]⟩
  rw [Text.trim, kept, Text.trimEnd, List.reverse_cons, List.head?_reverse, List.dropWhile_append]
  split
  · simp [sharp]
  · exact List.getLast?_concat

end Trimming

/-- A row of which each part stands in one line, that starts with a hyphen and says something. -/
structure Clean (row : FlagRow) : Prop where
  flags : Unbroken row.flags
  description : Unbroken row.description
  starts : row.flags.head? = some '-'
  described : row.description ≠ []

theorem describe_filled (description : Text) : describe description ≠ [] := by
  unfold describe
  split
  next => decide
  next filled => exact fun none => filled (List.isEmpty_iff.mpr none)

private theorem describe_of_filled {description : Text} (filled : description ≠ []) :
    describe description = description := if_neg fun none => filled (List.isEmpty_iff.mp none)

private theorem unbroken_describe {description : Text} (unbroken : Unbroken description) :
    Unbroken (describe description) := by
  unfold describe
  split
  · decide
  · exact unbroken

theorem unbroken_trim {t : Text} (unbroken : Unbroken t) : Unbroken (Text.trim t) :=
  fun c inside => unbroken c (subset_trim c inside)

private theorem clean_rowOfLine? {line : Text} (unbroken : Unbroken line) {row : FlagRow}
    (found : rowOfLine? line = some row) : Clean row := by
  have trimmed := unbroken_trim unbroken
  unfold rowOfLine? at found
  dsimp only at found
  generalize Text.trim line = line at trimmed found
  split at found
  next starts =>
    split at found
    next flags description cut =>
      obtain rfl := Option.some.inj found
      obtain rfl := Text.eq_of_partition?_eq_some cut
      have front : flags.head? = some '-' := by
        cases flags with
        | nil => cases starts
        | cons c rest => exact starts
      refine ⟨unbroken_trim fun c inside => ?_, unbroken_describe (unbroken_trim fun c inside => ?_),
        head?_trim front rfl, describe_filled _⟩
      · exact trimmed c (List.mem_append_left _ (List.mem_append_left _ inside))
      · exact trimmed c (List.mem_append_right _ inside)
    next =>
      obtain rfl := Option.some.inj found
      have silent : Unbroken [] := List.forall_mem_nil _
      exact ⟨unbroken_trim trimmed, unbroken_describe silent, head?_trim starts rfl, describe_filled []⟩
  next => cases found

theorem clean_rowsOfPage {page : Text} {row : FlagRow} (listed : row ∈ rowsOfPage page) : Clean row := by
  obtain ⟨line, inside, found⟩ := List.mem_filterMap.mp listed
  exact clean_rowOfLine? (unbroken_of_mem inside) found

/-- What a row is read as where it was written: the first bar ends the flags. -/
def reread (row : FlagRow) : FlagRow :=
  match Text.partition? "|" row.flags with
  | some (front, rest) => ⟨front, rest ++ '|' :: row.description⟩
  | none => row

theorem partition?_bar (t : Text) : Text.partition? "|" t = Text.partition? ['|'] t := rfl

private theorem reread_of_notMem {row : FlagRow} (barless : '|' ∉ row.flags) : reread row = row := by
  rw [reread, partition?_bar, partition?_absent barless]

private theorem reread_eq_iff {row : FlagRow} : reread row = row ↔ '|' ∉ row.flags := by
  refine ⟨fun same barred => ?_, reread_of_notMem⟩
  obtain ⟨front, rest, flags, barless⟩ := List.eq_append_cons_of_mem barred
  rw [reread, partition?_bar, flags, partition?_first barless] at same
  have shorter : front = front ++ '|' :: rest := (congrArg FlagRow.flags same).trans flags
  simp at shorter

theorem map_reread_eq_iff {rows : List FlagRow} :
    rows.map reread = rows ↔ ∀ row ∈ rows, '|' ∉ row.flags := by
  conv_lhs => rw [← List.map_id rows, List.map_map, List.map_inj_left]
  exact forall₂_congr fun row _ => reread_eq_iff

private theorem rowOfFileLine?_written {row : FlagRow} (clean : Clean row) :
    rowOfFileLine? (row.flags ++ '|' :: row.description) = some (reread row) := by
  obtain ⟨rest, flags⟩ := List.head?_eq_some_iff.mp clean.starts
  by_cases barred : '|' ∈ row.flags
  · obtain ⟨front, more, whole, barless⟩ := List.eq_append_cons_of_mem barred
    have filled : front.isEmpty = false := by
      rw [List.isEmpty_eq_false_iff]
      rintro rfl
      cases whole.symm.trans flags
    rw [rowOfFileLine?, reread, partition?_bar, partition?_bar, whole, partition?_first barless,
      List.append_assoc, List.cons_append, partition?_first barless]
    have described : more ++ '|' :: row.description ≠ [] := by simp
    simp only [Option.getD_some, filled, Bool.false_eq_true, if_false, describe_of_filled described]
  · have filled : row.flags.isEmpty = false := by rw [flags]; rfl
    rw [rowOfFileLine?, reread_of_notMem barred, partition?_bar, partition?_first barred]
    simp only [Option.getD_some, filled, Bool.false_eq_true, if_false, describe_of_filled clean.described]

section Written

variable {rows : List FlagRow} (clean : ∀ row ∈ rows, Clean row)

include clean

private theorem lines_rows : Text.lines (rows.flatMap lineOfRow) =
    rows.map fun row => row.flags ++ '|' :: row.description := by
  induction rows with
  | nil => rfl
  | cons row rows ih =>
    obtain ⟨here, later⟩ := List.forall_mem_cons.mp clean
    have line : Unbroken (row.flags ++ '|' :: row.description) :=
      here.flags.append (unbroken_cons.mpr ⟨rfl, here.description⟩)
    have split : lineOfRow row ++ rows.flatMap lineOfRow =
        (row.flags ++ '|' :: row.description) ++ '\n' :: rows.flatMap lineOfRow := by
      simp [lineOfRow]
    rw [List.flatMap_cons, split, lines_line line, ih later, List.map_cons]

theorem read_rows : (Text.lines (rows.flatMap lineOfRow)).filterMap rowOfFileLine? = rows.map reread := by
  rw [lines_rows clean, List.filterMap_map]
  induction rows with
  | nil => rfl
  | cons row rows ih =>
    obtain ⟨here, later⟩ := List.forall_mem_cons.mp clean
    rw [List.filterMap_cons, Function.comp_apply, rowOfFileLine?_written here, ih later, List.map_cons]

theorem textOf_rows : textOf (Utf8.encode (rows.flatMap lineOfRow)) = rows.flatMap lineOfRow := by
  rw [textOf, Utf8Text.decode_encode, plainBreaks_eq]
  intro inside
  obtain ⟨row, listed, inside⟩ := List.mem_flatMap.mp inside
  have unbroken : '\r' ∉ row.flags ∧ '\r' ∉ row.description :=
    ⟨fun here => (by decide : ¬ Text.isLineBreak '\r' = false) ((clean row listed).flags _ here),
      fun here => (by decide : ¬ Text.isLineBreak '\r' = false) ((clean row listed).description _ here)⟩
  simp [lineOfRow, unbroken] at inside

end Written

end CommandShell.Proofs.FlagRows
