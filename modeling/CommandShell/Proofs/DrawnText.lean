import CommandShell.Proofs.SheetCodes

/-! What drawn text does to a terminal: its characters are laid one behind the other, and the codes of
its styles move nothing. -/

namespace CommandShell.Proofs.DrawnText
open HistoryRecords SheetCodes TextLines

variable {width : Char → Nat} {t rest : Text}

/-- A text that only shows characters and breaks lines. -/
def Clean (t : Text) : Prop := ∀ c ∈ t, c ≠ '\x1b' ∧ c ≠ '\r'

instance (t : Text) : Decidable (Clean t) :=
  decidable_of_iff (t.all fun c => c != '\x1b' && c != '\r') (by simp [Clean])

theorem Clean.append (front : Clean t) (behind : Clean rest) : Clean (t ++ rest) := by
  intro c inside
  rcases List.mem_append.mp inside with here | there
  · exact front c here
  · exact behind c there

theorem lay_append (sheet : Sheet) (t rest : Text) :
    sheet.lay width (t ++ rest) = (sheet.lay width t).lay width rest := List.foldl_append

theorem lay_row (sheet : Sheet) (t : Text) : (sheet.lay width t).row = sheet.row + t.count '\n' := by
  induction t generalizing sheet with
  | nil => rfl
  | cons c t ih =>
    rw [Sheet.lay, List.foldl_cons]
    refine (ih _).trans ?_
    rw [Sheet.put, List.count_cons]
    by_cases breaks : c = '\n'
    · rw [if_pos breaks, if_pos (beq_iff_eq.mpr breaks)]
      exact Nat.add_right_comm sheet.row 1 _
    · rw [if_neg breaks, if_neg (by rwa [beq_iff_eq])]
      rfl

theorem lay_glyphs (sheet : Sheet) (t : Text) : ∃ more, (sheet.lay width t).glyphs = more ++ sheet.glyphs := by
  induction t generalizing sheet with
  | nil => exact ⟨[], rfl⟩
  | cons c t ih =>
    obtain ⟨more, later⟩ := ih (sheet.put width c)
    rw [Sheet.lay, List.foldl_cons]
    by_cases breaks : c = '\n'
    · exact ⟨more, later.trans (by rw [Sheet.put, if_pos breaks])⟩
    · refine ⟨more ++ [⟨sheet.row, sheet.column, c⟩], later.trans ?_⟩
      rw [Sheet.put, if_neg breaks, List.append_assoc]
      rfl

theorem writes_clean (clean : Clean t) (sheet : Sheet) : Writes width t sheet (sheet.lay width t) := by
  induction t generalizing sheet with
  | nil => rfl
  | cons c t ih =>
    obtain ⟨⟨no_escape, no_return⟩, behind⟩ := List.forall_mem_cons.mp clean
    rw [Writes, feed, List.foldl_cons, step, if_neg no_escape, if_neg no_return]
    exact ih behind _

private theorem colour_codes (colour : Colour) (behind : Bool) :
    ∀ code ∈ colour.codes behind, ∃ n, code = Text.ofNat n := by
  have two : ("2" : Text) = Text.ofNat 2 := rfl
  have five : ("5" : Text) = Text.ofNat 5 := rfl
  unfold Colour.codes
  extract_lets shift
  split
  next => exact List.forall_mem_singleton.mpr ⟨_, rfl⟩
  next number _ =>
    split
    · exact List.forall_mem_singleton.mpr ⟨_, rfl⟩
    · split
      · exact List.forall_mem_singleton.mpr ⟨_, rfl⟩
      · simp only [List.forall_mem_cons]
        exact ⟨⟨_, rfl⟩, ⟨5, five⟩, ⟨_, rfl⟩, List.forall_mem_nil _⟩
  next =>
    simp only [List.forall_mem_cons]
    exact ⟨⟨_, rfl⟩, ⟨2, two⟩, ⟨_, rfl⟩, ⟨_, rfl⟩, ⟨_, rfl⟩, List.forall_mem_nil _⟩

private theorem style_codes {style : Style} {code : Text} (inside : code ∈ style.codes) :
    ∀ c ∈ code, c.isDigit = true := by
  have coloured {colour : Option Colour} {behind : Bool}
      (inside : code ∈ (colour.map fun colour => colour.codes behind).getD []) :
      ∀ c ∈ code, c.isDigit = true := by
    cases colour with
    | none => exact absurd inside List.not_mem_nil
    | some colour =>
      obtain ⟨n, rfl⟩ := colour_codes colour behind code inside
      exact fun _ => isDigit_of_mem_ofNat
  rcases List.mem_append.mp inside with inside | inside
  · rcases List.mem_append.mp inside with inside | inside
    · obtain ⟨emphasis, -, rfl⟩ := List.mem_map.mp inside
      exact List.all_eq_true.mp (by cases emphasis <;> rfl)
    · exact coloured inside
  · exact coloured inside

/-- The numbers of a code and the signs between them. -/
theorem feed_numbers {sheet : Sheet} (numbers : ∀ c ∈ t, c.isDigit = true ∨ c = ';') (count : Nat) :
    ∃ last, feed width (sheet, .code count) t = (sheet, .code last) := by
  induction t generalizing count with
  | nil => exact ⟨count, rfl⟩
  | cons c t ih =>
    obtain ⟨here, behind⟩ := List.forall_mem_cons.mp numbers
    rw [feed, List.foldl_cons, step]
    rcases here with digit | rfl
    · rw [if_pos digit]
      exact ih behind _
    · exact ih behind 0

private theorem writes_wrap {sheet after : Sheet} (style : Style) (inner : Writes width t sheet after) :
    Writes width (style.wrap t) sheet after := by
  unfold Style.wrap
  split
  next => exact inner
  next =>
    have numbers : ∀ c ∈ Text.join ";" style.codes, c.isDigit = true ∨ c = ';' := by
      intro c inside
      rcases mem_join inside with between | ⟨code, member, inside⟩
      · exact .inr (List.mem_singleton.mp between)
      · exact .inl (style_codes member c inside)
    obtain ⟨last, read⟩ := @feed_numbers width _ sheet numbers 0
    have set : Writes width ("\x1b[" ++ Text.join ";" style.codes ++ ['m']) sheet sheet := by
      rw [Writes, feed_append, feed_append]
      change feed width (feed width (sheet, .code 0) (Text.join ";" style.codes)) ['m'] = _
      rw [read]
      rfl
    have ended : Writes width ("\x1b[0m" : Text) after after := rfl
    simpa only [List.append_assoc, List.cons_append, List.nil_append] using (set.append inner).append ended

private theorem writes_row {row : Row} (clean : Clean row.text) (coloured : Bool) (sheet : Sheet) :
    Writes width (row.written coloured) sheet (sheet.lay width row.text) := by
  cases coloured with
  | false => exact writes_clean clean sheet
  | true =>
    induction row generalizing sheet with
    | nil => exact .nothing sheet
    | cons run row ih =>
      have here : Clean run.text := fun c inside => clean c (List.mem_append_left _ inside)
      have behind : Clean (Row.text row) := fun c inside => clean c (List.mem_append_right _ inside)
      have text : Row.text (run :: row) = run.text ++ Row.text row := rfl
      rw [text, lay_append]
      exact (writes_wrap run.style (writes_clean here sheet)).append (ih behind _)

private theorem writes_rows {rows : List Row} (clean : Clean (Text.join "\n" (rows.map (Row.written false))))
    (coloured : Bool) (sheet : Sheet) :
    Writes width (Text.join "\n" (rows.map (Row.written coloured))) sheet
      (sheet.lay width (Text.join "\n" (rows.map (Row.written false)))) := by
  unfold Text.join at clean ⊢
  induction rows generalizing sheet with
  | nil => exact .nothing sheet
  | cons row rows ih =>
    cases rows with
    | nil =>
      simp only [List.map_cons, List.map_nil, List.intercalate_singleton] at clean ⊢
      exact writes_row clean coloured sheet
    | cons next rows =>
      simp only [List.map_cons, List.intercalate_cons_cons, lay_append] at clean ih ⊢
      have here : Clean row.text := fun c inside =>
        clean c (List.mem_append_left _ (List.mem_append_left _ inside))
      have feed : Clean ("\n" : Text) := by decide
      exact ((writes_row here coloured sheet).append (writes_clean feed _)).append
        (ih (fun c inside => clean c (List.mem_append_right _ inside)) _)

private theorem flatten_tabPieces (t : Text) : (StyledText.tabPieces t).flatten = t := by
  fun_induction StyledText.tabPieces t with
  | case1 => rfl
  | case2 rest ih => rw [List.flatten_cons, ih]; rfl
  | case3 c rest other none ih =>
    rw [none] at ih
    rw [← ih]
    rfl
  | case4 c rest other piece later found ih =>
    rw [found] at ih
    rw [← ih]
    rfl

private theorem mem_untabPieces {pieces : List Text} {column : Nat} {c : Char}
    (inside : c ∈ (StyledText.untabPieces column pieces).flatten) : c ∈ pieces.flatten ∨ c = ' ' := by
  fun_induction StyledText.untabPieces column pieces with
  | case1 => exact .inl inside
  | case2 column piece rest tab filled reached gap ih =>
    rw [List.flatten_cons, List.mem_append, List.mem_append, List.mem_append] at inside
    rw [List.flatten_cons, List.mem_append]
    rcases inside with ((here | blank) | blank) | behind
    · exact .inl (.inl ((List.dropLast_sublist piece).subset here))
    · exact .inr (List.mem_singleton.mp blank)
    · exact .inr (List.eq_of_mem_replicate blank)
    · exact (ih behind).imp_left .inr
  | case3 column piece rest whole ih =>
    rw [List.flatten_cons, List.mem_append] at inside ⊢
    rcases inside with here | behind
    · exact .inl (.inl here)
    · exact (ih behind).imp_left .inr

section StyledText
variable (styled : StyledText)

private theorem mem_untab {c : Char} (inside : c ∈ styled.untab.text) : c ∈ styled.text ∨ c = ' ' := by
  unfold StyledText.untab at inside
  split at inside
  next =>
    have flat := mem_untabPieces inside
    rwa [flatten_tabPieces] at flat
  next => exact .inl inside

private theorem untab_eq (untabbed : '\t' ∉ styled.text) : styled.untab = styled := by
  rw [StyledText.untab, if_neg]
  simpa using untabbed

private theorem pieces_text (start : Nat) (pieces : List Text) :
    (styled.pieces start pieces).map (·.text) = pieces := by
  induction pieces generalizing start with
  | nil => rfl
  | cons piece rest ih => rw [StyledText.pieces, List.map_cons, ih]

theorem lines_text : styled.lines.map (·.text) = Text.splitOn '\n' styled.text := by
  unfold StyledText.lines
  split
  next none => exact absurd none (List.splitOn_ne_nil _ _)
  next line one =>
    have whole := join_splitOn '\n' styled.text
    rw [one] at whole ⊢
    exact congrArg (fun t => [t]) (whole.symm.trans List.intercalate_singleton)
  next first second rest many => rw [pieces_text, many]

theorem written_eq :
    styled.written false = Text.join "\n" (styled.lines.map fun line => line.untab.text) := by
  have row (line : StyledText) : Row.written false line.untab.runs = line.untab.text :=
    line.untab.text_runs
  rw [StyledText.written, StyledText.rows, List.map_map]
  exact congrArg (Text.join _) (List.map_congr_left fun line _ => row line)

private theorem text_of_line {line : StyledText} (member : line ∈ styled.lines) :
    line.text ∈ Text.splitOn '\n' styled.text :=
  lines_text styled ▸ List.mem_map_of_mem member

private theorem mem_line {line : StyledText} (member : line ∈ styled.lines) {c : Char}
    (inside : c ∈ line.text) :
    c ∈ styled.text := by
  rw [← join_splitOn '\n' styled.text]
  exact mem_join_of_mem (text_of_line styled member) inside

theorem count_written : (styled.written false).count '\n' = styled.text.count '\n' := by
  have apart : ∀ shown ∈ styled.lines.map fun line => line.untab.text, '\n' ∉ shown := by
    intro shown inside
    obtain ⟨line, member, rfl⟩ := List.mem_map.mp inside
    intro breaks
    rcases mem_untab line breaks with here | blank
    · exact notMem_splitOn (text_of_line styled member) here
    · exact absurd blank (by decide)
  have pieces : (styled.written false).count '\n' = styled.lines.length - 1 := by
    rw [written_eq]
    exact (count_join apart).trans (by rw [List.length_map])
  have split : styled.text.count '\n' = styled.lines.length - 1 := by
    rw [← List.length_map (·.text), lines_text, ← count_join fun _ => notMem_splitOn, join_splitOn]
  rw [pieces, split]

private theorem mem_written {c : Char} (inside : c ∈ styled.written false) : c ∈ styled.text ∨ c = ' ' := by
  by_cases breaks : c = '\n'
  · subst breaks
    rw [← List.count_pos_iff, count_written, List.count_pos_iff] at inside
    exact .inl inside
  · rw [written_eq] at inside
    rcases mem_join inside with between | ⟨shown, member, here⟩
    · exact absurd (List.mem_singleton.mp between) breaks
    · obtain ⟨line, inside, rfl⟩ := List.mem_map.mp member
      exact (mem_untab line here).imp_left (mem_line styled inside)

theorem written_untabbed (untabbed : '\t' ∉ styled.text) : styled.written false = styled.text := by
  have same : styled.lines.map (fun line => line.untab.text) = styled.lines.map (·.text) :=
    List.map_congr_left fun line member => by
      rw [untab_eq line fun tab => untabbed (mem_line styled member tab)]
  rw [written_eq, same, lines_text]
  exact join_splitOn '\n' styled.text

variable {styled}

theorem clean_written (clean : Clean styled.text) : Clean (styled.written false) := by
  intro c inside
  rcases mem_written styled inside with here | rfl
  · exact clean c here
  · decide

theorem writes_styled (clean : Clean styled.text) (coloured : Bool) (sheet : Sheet) :
    Writes width (styled.written coloured) sheet (sheet.lay width (styled.written false)) := by
  have rows := clean_written clean
  unfold StyledText.written at rows ⊢
  exact writes_rows rows coloured sheet

end StyledText

end CommandShell.Proofs.DrawnText
