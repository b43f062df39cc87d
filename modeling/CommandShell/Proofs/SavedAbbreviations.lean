import CommandShell.Proofs.AbbreviationRuns

/-! Abbreviations that are saved and loaded again. Whatever texts a table has, its file gives them back,
and over another table they take the place of what that has for their words. -/

namespace CommandShell.Proofs.SavedAbbreviations
open AbbreviationRuns ActSteps FileReads HistoryRuns JsonTexts SessionStart TableKeys

def CanWrite (path : Path) (files : Files) : Prop := ∃ after, Changes path (fun _ => []) files after

private theorem on_load_saved {path : Path} {table : Table Json} {world : World} (texts : Texts table)
    (distinct : table.keys.Nodup) (held : Writable path (saved table) world.files) (old : Table Json) :
    (Abbreviations.load ⟨some path, old⟩).on world =
      (.ok (⟨some path, old.overlay table⟩, (old.overlay table).length), world) := by
  obtain ⟨place, access, found, opens⟩ := held.found
  obtain ⟨decoded, trimmed⟩ := trim_written texts
  have read : (World.readText path.text).on world =
      (.ok (Text.plainBreaks (Json.record table).indentedAscii), world) := by
    rw [on_readText held.named, read_of_find found opens]
    simp only [saved, decoded]
  simp only [Abbreviations.load, on_bind, on_occupied held.named, occupied_of_find found, Except.mapError,
    if_true, Abbreviations.readFile, on_attempt, read, trimmed, isEmpty_indentedAscii texts,
    Bool.false_eq_true, if_false, read_written texts distinct]
  change (Except.ok ((⟨some path, old.overlay (shownFields table)⟩ : Abbreviations),
    (old.overlay (shownFields table)).length), world) = _
  rw [shownFields_texts texts]

/-- A table of texts that is saved where a file can be written is loaded from there as it was, and over
another table its texts take the place of those for the same words. -/
theorem saved_table_loads {path : Path} {table : Table Json} {world : World} (texts : Texts table)
    (distinct : table.keys.Nodup) (writable : CanWrite path world.files) :
    ∃ files, (Abbreviations.save ⟨some path, table⟩).on world = (.ok ⟨⟩, { world with files }) ∧
      (Abbreviations.load ⟨some path, []⟩).on { world with files } =
        (.ok (⟨some path, table⟩, table.length), { world with files }) ∧
      ∀ old : Table Json, ∃ both,
        (Abbreviations.load ⟨some path, old⟩).on { world with files } =
          (.ok (⟨some path, both⟩, both.length), { world with files }) ∧
        both.keys = old.keys ++ table.keys.filter (· ∉ old.keys) ∧
        ∀ word, both.get? word = (table.get? word).or (old.get? word) := by
  obtain ⟨_, changes⟩ := writable
  obtain ⟨_, files, changes, held⟩ := changes.rewrite fun _ => saved table
  have loads (old : Table Json) : (Abbreviations.load ⟨some path, old⟩).on { world with files } =
      (.ok (⟨some path, old.overlay table⟩, (old.overlay table).length), { world with files }) :=
    on_load_saved texts distinct held old
  refine ⟨files, on_save rfl changes, ?_, fun old => ⟨_, loads old, keys_overlay distinct old,
    get?_overlay distinct old⟩⟩
  have whole : Table.overlay [] table = table := ofPairs_eq distinct
  rw [loads [], whole]

def oddTexts : Table Json :=
  [("", .text "\"\\/\t\n\r\x08"), ("\x00\x1f\x7f\u0085\u2028\u2029", .text ""),
    ("\ufeff\uffff𐀀😀", .text " \ud7ff\ue000é\x7d\n")]

/-- Quotes and control characters, separators of lines and characters of two units come back, and so do
empty texts. -/
theorem odd_texts_survive :
    Texts oddTexts ∧ oddTexts.keys.Nodup ∧ CanWrite ⟨"/", ["h"]⟩ ({} : World).files ∧
    ∃ files, (Abbreviations.save ⟨some ⟨"/", ["h"]⟩, oddTexts⟩).on {} = (.ok ⟨⟩, { files }) ∧
      (Abbreviations.load ⟨some ⟨"/", ["h"]⟩, []⟩).on { files } =
        (.ok (⟨some ⟨"/", ["h"]⟩, oddTexts⟩, 3), { files }) := by
  have texts : Texts oddTexts := by simp [Texts, oddTexts]
  have distinct : oddTexts.keys.Nodup := by decide
  have writable : CanWrite ⟨"/", ["h"]⟩ ({} : World).files := by
    obtain ⟨after, changes, -⟩ := free_empty.change fun _ => []
    exact ⟨after, changes⟩
  obtain ⟨files, saves, loads, -⟩ := saved_table_loads texts distinct writable
  exact ⟨texts, distinct, writable, files, saves, loads⟩

end CommandShell.Proofs.SavedAbbreviations
