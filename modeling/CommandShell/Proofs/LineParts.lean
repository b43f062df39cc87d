import CommandShell.Proofs.DrawnText

/-! The parts that a drawn line is made of: the prompt and the rows of the pager, each in one row. -/

namespace CommandShell.Proofs.LineParts
open DrawnText SheetCodes

variable {width : Char → Nat} {t rest : Text} {n m : Nat}

theorem bind_eq_ok {α β : Type} {first : Except Fault α} {next : α → Except Fault β} {value : β} :
    (first >>= next) = .ok value ↔ ∃ middle, first = .ok middle ∧ next middle = .ok value := by
  cases first with
  | error fault => simp [bind, Except.bind]
  | ok middle => simp [bind, Except.bind]

theorem pure_eq_ok {α : Type} {given value : α} :
    (pure given : Except Fault α) = .ok value ↔ given = value := by
  simp [pure, Except.pure]

variable (width) in
/-- Wherever it is written, it breaks so many lines, and what was shown stays. -/
def Falls (t : Text) (n : Nat) : Prop :=
  ∀ sheet, ∃ after, Writes width t sheet after ∧ after.row = sheet.row + n ∧
    ∃ more, after.glyphs = more ++ sheet.glyphs

theorem Falls.nothing : Falls width [] 0 := fun sheet => ⟨sheet, .nothing sheet, rfl, [], rfl⟩

theorem Falls.append (first : Falls width t n) (second : Falls width rest m) :
    Falls width (t ++ rest) (n + m) := by
  intro sheet
  obtain ⟨between, writes, fallen, front, shown⟩ := first sheet
  obtain ⟨after, writes', fallen', more, shown'⟩ := second between
  refine ⟨after, writes.append writes', by rw [fallen', fallen, Nat.add_assoc], more ++ front, ?_⟩
  rw [shown', shown, List.append_assoc]

private theorem falls_newRow : Falls width Code.newRow 1 := fun _ => ⟨_, writes_newRow, rfl, [], rfl⟩

theorem falls_clearRow : Falls width Code.clearRow 0 := fun _ => ⟨_, writes_clearRow, rfl, [], rfl⟩

theorem falls_styled {styled : StyledText} (clean : Clean styled.text) (coloured : Bool) :
    Falls width (styled.written coloured) (styled.text.count '\n') := by
  intro sheet
  refine ⟨_, writes_styled clean coloured sheet, ?_, lay_glyphs sheet _⟩
  rw [lay_row, count_written]

def OneLine (t : Text) : Prop := '\n' ∉ t ∧ '\x1b' ∉ t

def Flat (styled : StyledText) : Prop := '\n' ∉ styled.text ∧ Clean styled.text

theorem clean_withoutControls (unescaped : '\x1b' ∉ t) : Clean (Text.withoutControls t) := by
  intro c inside
  obtain ⟨here, kept⟩ := List.mem_filter.mp inside
  refine ⟨fun same => unescaped (same ▸ here), ?_⟩
  rintro rfl
  exact absurd kept (by decide)

theorem count_withoutControls (t : Text) : (Text.withoutControls t).count '\n' = t.count '\n' :=
  List.count_filter (by decide)

private theorem flat_ofText (oneLine : OneLine t) (style : Style) : Flat (.ofText t style) :=
  ⟨fun inside => oneLine.1 (List.mem_of_mem_filter inside), clean_withoutControls oneLine.2⟩

theorem Flat.append {styled : StyledText} (flat : Flat styled) (oneLine : OneLine t) (style : Style) :
    Flat (styled.append t style) := by
  refine ⟨fun inside => ?_, flat.2.append (clean_withoutControls oneLine.2)⟩
  rcases List.mem_append.mp inside with front | behind
  · exact flat.1 front
  · exact oneLine.1 (List.mem_of_mem_filter behind)

variable {settings : Settings} {user folder : Text}

theorem flat_promptOf (named : OneLine user) (placed : OneLine folder) {prompt : StyledText}
    (made : promptOf settings user folder = .ok prompt) : Flat prompt := by
  simp only [promptOf, bind_eq_ok, pure_eq_ok] at made
  obtain ⟨-, ⟨first, -, rfl⟩, -, ⟨second, -, rfl⟩, -, ⟨third, -, rfl⟩, fourth, -, rfl⟩ := made
  have start : Flat {} := ⟨List.not_mem_nil, fun _ inside => absurd inside List.not_mem_nil⟩
  have colon : OneLine ":" := ⟨by decide, by decide⟩
  have sign : OneLine "> " := ⟨by decide, by decide⟩
  exact (((start.append named first).append colon second).append placed third).append sign fourth

structure Listed (candidate : Candidate) : Prop where
  display : OneLine candidate.display
  description : ∀ description ∈ candidate.description, OneLine description

private theorem flat_rowOf {chosen : Bool} {candidate : Candidate} (listed : Listed candidate)
    {row : StyledText} (made : Pager.rowOf settings chosen candidate = .ok row) : Flat row := by
  obtain ⟨style, -, made⟩ := bind_eq_ok.mp made
  have front := flat_ofText listed.display style
  split at made
  next c description described =>
    obtain ⟨behind, -, made⟩ := bind_eq_ok.mp made
    obtain rfl := pure_eq_ok.mp made
    have gap : OneLine "  " := ⟨by decide, by decide⟩
    exact (front.append gap .plain).append (listed.description _ described) behind
  next => exact pure_eq_ok.mp made ▸ front

private theorem flat_rowsFrom {selected position : Nat} {candidates : List Candidate}
    (listed : ∀ candidate ∈ candidates, Listed candidate) {rows : List StyledText}
    (made : Pager.rowsFrom settings selected position candidates = .ok rows) : ∀ row ∈ rows, Flat row := by
  induction candidates generalizing position rows with
  | nil =>
    cases made
    exact List.forall_mem_nil _
  | cons candidate rest ih =>
    obtain ⟨here, behind⟩ := List.forall_mem_cons.mp listed
    obtain ⟨row, drawn, made⟩ := bind_eq_ok.mp made
    obtain ⟨later, drawn', made⟩ := bind_eq_ok.mp made
    obtain rfl := pure_eq_ok.mp made
    exact List.forall_mem_cons.mpr ⟨flat_rowOf here drawn, ih behind drawn'⟩

private theorem flat_positionRow {pager : Pager} {row : StyledText}
    (made : pager.positionRow settings = .ok row) : Flat row := by
  obtain ⟨style, -, made⟩ := bind_eq_ok.mp made
  obtain rfl := pure_eq_ok.mp made
  refine flat_ofText ⟨fun inside => ?_, fun inside => ?_⟩ style <;>
  · rcases List.mem_append.mp inside with digit | inside
    · exact absurd (HistoryRecords.isDigit_of_mem_ofNat digit) (by decide)
    · rcases List.mem_cons.mp inside with slash | digit
      · exact absurd slash (by decide)
      · exact absurd (HistoryRecords.isDigit_of_mem_ofNat digit) (by decide)

theorem flat_rows {pager : Pager} (listed : ∀ candidate ∈ pager.candidates, Listed candidate)
    {rows : List StyledText} (made : pager.rows settings = .ok rows) : ∀ row ∈ rows, Flat row := by
  obtain ⟨⟨start, stop⟩, -, made⟩ := bind_eq_ok.mp made
  obtain ⟨inside, drawn, made⟩ := bind_eq_ok.mp made
  have flat := flat_rowsFrom (fun candidate member =>
    listed candidate (List.mem_of_mem_drop (List.mem_of_mem_take member))) drawn
  split at made
  next =>
    obtain ⟨position, drawn', made⟩ := bind_eq_ok.mp made
    obtain rfl := pure_eq_ok.mp made
    exact List.forall_mem_append.mpr ⟨flat, List.forall_mem_singleton.mpr (flat_positionRow drawn')⟩
  next => exact pure_eq_ok.mp made ▸ flat

/-- Rows below a line: each in a row of its own. -/
theorem falls_rows {rows : List StyledText} (flat : ∀ row ∈ rows, Flat row) (coloured : Bool) :
    Falls width (rows.flatMap fun row => Code.newRow ++ row.written coloured ++ Code.clearRow) rows.length := by
  induction rows with
  | nil => exact .nothing
  | cons row rows ih =>
    obtain ⟨here, behind⟩ := List.forall_mem_cons.mp flat
    have drawn := @falls_styled width row here.2 coloured
    rw [List.count_eq_zero_of_not_mem here.1] at drawn
    have whole := ((falls_newRow.append drawn).append falls_clearRow).append (ih behind)
    rwa [Nat.add_comm (1 + 0 + 0)] at whole

def Returns {α : Type} (result : Except Fault α) : Prop := ∃ value, result = .ok value

theorem Returns.value {α : Type} (value : α) : Returns (pure value) := ⟨value, rfl⟩

theorem Returns.bind {α β : Type} {first : Except Fault α} {next : α → Except Fault β} (front : Returns first)
    (behind : ∀ value, Returns (next value)) : Returns (first >>= next) := by
  obtain ⟨middle, returned⟩ := front
  obtain ⟨value, returned'⟩ := behind middle
  exact ⟨value, bind_eq_ok.mpr ⟨middle, returned, returned'⟩⟩

theorem Returns.each {α β : Type} {items : List α} {act : α → Except Fault β}
    (each : ∀ item ∈ items, Returns (act item)) : Returns (items.mapM act) := by
  induction items with
  | nil => exact .value []
  | cons item items ih =>
    obtain ⟨here, behind⟩ := List.forall_mem_cons.mp each
    rw [List.mapM_cons]
    exact here.bind fun _ => (ih behind).bind fun _ => .value _

/-- Settings and a view whose styles can be read, with a number for the rows of the pager. -/
structure Legible (settings : Settings) (view : LineView) : Prop where
  styles : ∀ name, Returns (settings.promptStyle name)
  spans : ∀ span ∈ view.spans.getD [], Returns span.style.textStyle
  rows : ∃ most, settings.pagerRows = .int most

section Legible
variable {view : LineView} (legible : Legible settings view)
include legible

theorem Legible.prompt (user folder : Text) : Returns (promptOf settings user folder) :=
  ((legible.styles _).bind fun _ => .value _).bind fun _ =>
    ((legible.styles _).bind fun _ => .value _).bind fun _ =>
      ((legible.styles _).bind fun _ => .value _).bind fun _ => (legible.styles _).bind fun _ => .value _

theorem Legible.rowOf (chosen : Bool) (candidate : Candidate) :
    Returns (Pager.rowOf settings chosen candidate) := by
  refine (legible.styles _).bind fun style => ?_
  dsimp only
  split
  · exact (legible.styles _).bind fun _ => .value _
  · exact .value _

theorem Legible.rowsFrom (selected position : Nat) (candidates : List Candidate) :
    Returns (Pager.rowsFrom settings selected position candidates) := by
  induction candidates generalizing position with
  | nil => exact .value []
  | cons candidate rest ih =>
    exact (legible.rowOf _ candidate).bind fun _ => (ih _).bind fun _ => .value _

theorem Legible.pagerRows : Returns (view.pagerRows settings) := by
  obtain ⟨most, number⟩ := legible.rows
  unfold LineView.pagerRows
  split
  next pager _ =>
    split
    next =>
      refine Returns.bind ⟨pager.window most, by rw [Settings.pagerWindow, number]⟩ fun window => ?_
      refine (legible.rowsFrom _ _ _).bind fun rows => ?_
      split
      · exact ((legible.styles _).bind fun _ => .value _).bind fun _ => .value _
      · exact .value _
    next => exact .value []
  next => exact .value []

theorem Legible.written (coloured : Bool) (user : Text) (area : EditArea) :
    Returns (view.written settings coloured user area) := by
  have styled : Returns view.styled :=
    (Returns.each fun span inside => (legible.spans span inside).bind fun _ => .value _).bind fun _ => .value _
  refine (legible.prompt user view.folder).bind fun _ => styled.bind fun _ => ?_
  dsimp only
  split
  · exact (Returns.value []).bind fun _ => legible.pagerRows.bind fun _ => .value _
  · exact (legible.styles _).bind fun _ => (Returns.value _).bind fun _ => legible.pagerRows.bind fun _ => .value _

end Legible

end CommandShell.Proofs.LineParts
