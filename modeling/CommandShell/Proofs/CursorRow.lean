import CommandShell.Proofs.Frames
import CommandShell.Proofs.LineParts

/-! Where a line is drawn, and where its drawing leaves the cursor. The moves of one drawing are undone
by the next, so that a line is drawn again where it was. Only the line breaks of a suggestion are not
counted: they leave the cursor too low. -/

namespace CommandShell.Proofs.CursorRow
open DrawnText LineParts SheetCodes

variable {width : Char → Nat} {t : Text}

private theorem getLast?_splitOn (sep : Char) (t : Text) :
    (Text.splitOn sep t).getLast? = some (t.rtakeWhile (· != sep)) := by
  have whole : t.rdropWhile (· != sep) ++ t.rtakeWhile (· != sep) = t := List.rdropWhile_append_rtakeWhile
  have last : sep ∉ t.rtakeWhile (· != sep) := fun inside => by
    simpa using List.mem_rtakeWhile_imp inside
  by_cases single : t.rdropWhile (· != sep) = []
  · rw [single, List.nil_append] at whole
    rw [whole] at last ⊢
    rw [Text.splitOn, List.splitOn_eq_singleton last]
    rfl
  · have ends := List.rdropWhile_last_not _ _ single
    have cut : (t.rdropWhile (· != sep)).dropLast ++ [sep] = t.rdropWhile (· != sep) := by
      have final : (t.rdropWhile (· != sep)).getLast single = sep := by simpa using ends
      exact (congrArg (_ ++ [·]) final.symm).trans (List.dropLast_append_getLast single)
    rw [← cut, List.append_assoc, List.singleton_append] at whole
    generalize t.rtakeWhile (· != sep) = final at whole last ⊢
    rw [← whole, Text.splitOn, List.splitOn_append_cons_self, List.splitOn_eq_singleton last]
    exact List.getLast?_concat

variable {settings : Settings} {user : Text}

private theorem printable_bound {c : Char} (printable : Text.isPrintable c = true) : 0x20 ≤ c.toNat := by
  by_contra low
  have first : Text.unprintableRanges = (0x0, 0x1F) :: Text.unprintableRanges.tail := rfl
  rw [Text.isPrintable, first, CodeRanges.contains, if_neg (Nat.not_lt_zero _),
    decide_eq_true (show c.toNat ≤ 0x1F by omega)] at printable
  exact Bool.false_ne_true printable

/-- A line that is shown as it is: printable characters and line feeds, the cursor inside, folder and
candidates in one line each, and no code in the suggestion. -/
structure PlainView (view : LineView) : Prop where
  text : ∀ c ∈ view.text, Text.isPrintable c = true ∨ c = '\n'
  start : 0 ≤ view.cursor
  stop : view.cursor ≤ view.text.length
  folder : OneLine view.folder
  pager : ∀ pager ∈ view.pager, ∀ candidate ∈ pager.candidates, Listed candidate
  tail : '\x1b' ∉ view.tail

def front (view : LineView) : Text := view.text.take view.cursor.toNat

section PlainView
variable {view : LineView} (plain : PlainView view)
include plain

theorem PlainView.text_bound {c : Char} (inside : c ∈ view.text) : 0x20 ≤ c.toNat ∨ c = '\n' :=
  (plain.text c inside).imp_left printable_bound

theorem PlainView.withoutControls {t : Text} (inside : ∀ c ∈ t, c ∈ view.text) : Text.withoutControls t = t := by
  refine List.filter_eq_self.mpr fun c member => ?_
  rcases plain.text_bound (inside c member) with high | rfl
  · simp [Text.isHiddenControl]
    omega
  · decide

theorem PlainView.before_eq : view.before = front view := by
  have placed : (view.cursor.toNat : Int) = view.cursor := Int.toNat_of_nonneg plain.start
  have inside : view.cursor.toNat ≤ view.text.length := by
    have := plain.stop
    omega
  rw [LineView.before, ← placed, Text.before_natCast inside]
  rfl

theorem PlainView.styled {line : StyledText} (made : view.styled = .ok line) :
    Clean line.text ∧ line.written false = view.text := by
  obtain ⟨stretches, -, made⟩ := bind_eq_ok.mp made
  obtain rfl := pure_eq_ok.mp made
  have same : Text.withoutControls view.text = view.text := plain.withoutControls fun _ inside => inside
  have away {c : Char} (inside : c ∈ view.text) (low : c.toNat < 0x20) : c = '\n' :=
    (plain.text_bound inside).resolve_left (Nat.not_le.mpr low)
  refine ⟨?_, ?_⟩
  · intro c inside
    rw [StyledText.ofText, same] at inside
    refine ⟨?_, ?_⟩ <;> rintro rfl <;> exact absurd (away inside (by decide)) (by decide)
  · rw [written_untabbed]
    · exact same
    · intro tab
      rw [StyledText.ofText, same] at tab
      exact absurd (away tab (by decide)) (by decide)

theorem PlainView.area_above : view.area.above = (front view).count '\n' := by
  rw [← plain.before_eq]
  rfl

theorem PlainView.column_eq (cells : Nat) :
    view.column cells = Text.cells ((front view).rtakeWhile (· != '\n')) +
      if '\n' ∈ front view then 0 else cells := by
  have last : ∀ c ∈ (front view).rtakeWhile (· != '\n'), c ∈ view.text := fun c inside =>
    List.mem_of_mem_take ((List.rtakeWhile_suffix _ _).subset inside)
  rw [LineView.column, plain.before_eq, getLast?_splitOn, Option.getD_some, plain.withoutControls last,
    plain.area_above]
  by_cases breaks : '\n' ∈ front view
  · rw [if_pos breaks, if_neg (Nat.pos_iff_ne_zero.mp (List.count_pos_iff.mpr breaks))]
  · rw [if_neg breaks, if_pos (List.count_eq_zero_of_not_mem breaks)]

theorem PlainView.flat_pagerRows {rows : List StyledText} (made : view.pagerRows settings = .ok rows) :
    ∀ row ∈ rows, Flat row := by
  unfold LineView.pagerRows at made
  split at made
  next pager opened =>
    split at made
    next => exact flat_rows (plain.pager pager opened) made
    next =>
      cases made
      exact List.forall_mem_nil _
  next =>
    cases made
    exact List.forall_mem_nil _

theorem PlainView.falls_tail (coloured : Bool) (style : Style) :
    Falls width ((StyledText.ofText view.tail style).written coloured) (view.tail.count '\n') := by
  rw [← count_withoutControls]
  exact @falls_styled width (.ofText view.tail style) (clean_withoutControls plain.tail) coloured

end PlainView

/-- A line that is drawn from a row on: its prompt at the start of the row and its text behind the
prompt, the cursor where the cursor of the editor is, but lower by the line breaks of the suggestion. -/
structure DrawnFrom (width : Char → Nat) (row : Nat) (prompt : StyledText) (view : LineView)
    (sheet after : Sheet) : Prop where
  shown : ∃ later, after.glyphs =
    later ++ (Sheet.lay width ⟨row, 0, sheet.glyphs⟩ (prompt.written false ++ view.text)).glyphs
  row : after.row = row + (front view).count '\n' + view.tail.count '\n'
  column : after.column = Text.cells ((front view).rtakeWhile (· != '\n')) +
    if '\n' ∈ front view then 0 else prompt.cells

private theorem written_parts {view : LineView} {coloured : Bool} {area : EditArea}
    (made : view.written settings coloured user area = .ok t) :
    ∃ prompt line suggestion rows, promptOf settings user view.folder = .ok prompt ∧ view.styled = .ok line ∧
      (suggestion = [] ∧ view.tail = [] ∨
        ∃ style, suggestion = (StyledText.ofText view.tail style).written coloured) ∧
      view.pagerRows settings = .ok rows ∧
      t = (Code.up area.above ++ Code.rowStart ++ Code.clearBelow) ++
        (prompt.written coloured ++ line.written coloured) ++
        (suggestion ++ Code.clearRow ++
          rows.flatMap fun row => Code.newRow ++ row.written coloured ++ Code.clearRow) ++
        (Code.up rows.length ++ Code.up view.area.below ++ Code.rowStart ++
          Code.right (view.column prompt.cells)) := by
  obtain ⟨prompt, prompted, made⟩ := bind_eq_ok.mp made
  obtain ⟨line, styled, made⟩ := bind_eq_ok.mp made
  refine ⟨prompt, line, ?_⟩
  dsimp only at made
  split at made
  next none =>
    obtain ⟨suggestion, empty, made⟩ := bind_eq_ok.mp made
    obtain ⟨rows, listed, made⟩ := bind_eq_ok.mp made
    refine ⟨suggestion, rows, prompted, styled,
      .inl ⟨(pure_eq_ok.mp empty).symm, List.isEmpty_iff.mp none⟩, listed, ?_⟩
    simpa only [List.append_assoc] using (pure_eq_ok.mp made).symm
  next =>
    obtain ⟨style, -, made⟩ := bind_eq_ok.mp made
    obtain ⟨suggestion, drawn, made⟩ := bind_eq_ok.mp made
    obtain ⟨rows, listed, made⟩ := bind_eq_ok.mp made
    refine ⟨suggestion, rows, prompted, styled, .inr ⟨style, (pure_eq_ok.mp drawn).symm⟩, listed, ?_⟩
    simpa only [List.append_assoc] using (pure_eq_ok.mp made).symm

private theorem writes_home (above : Nat) (sheet : Sheet) :
    Writes width (Code.up above ++ Code.rowStart ++ Code.clearBelow) sheet ⟨sheet.row - above, 0, sheet.glyphs⟩ :=
  ((writes_up above).append writes_rowStart).append writes_clearBelow

private theorem writes_back (rows below column : Nat) (sheet : Sheet) :
    Writes width (Code.up rows ++ Code.up below ++ Code.rowStart ++ Code.right column) sheet
      ⟨sheet.row - rows - below, 0 + column, sheet.glyphs⟩ :=
  (((writes_up rows).append (writes_up below)).append writes_rowStart).append (writes_right column)

private theorem writes_line {view : LineView} (plain : PlainView view) (named : OneLine user)
    {coloured : Bool}
    {area : EditArea} (made : view.written settings coloured user area = .ok t) (sheet : Sheet) :
    ∃ prompt after, promptOf settings user view.folder = .ok prompt ∧ Writes width t sheet after ∧
      DrawnFrom width (sheet.row - area.above) prompt view sheet after := by
  obtain ⟨prompt, line, suggestion, rows, prompted, styled, suggested, listed, rfl⟩ := written_parts made
  obtain ⟨clean, shown⟩ := plain.styled styled
  have flat := flat_promptOf named plain.folder prompted
  let start : Sheet := ⟨sheet.row - area.above, 0, sheet.glyphs⟩
  let typed := start.lay width (prompt.written false ++ view.text)
  have text : Writes width (prompt.written coloured ++ line.written coloured) start typed := by
    rw [show typed = _ from lay_append _ _ _, ← shown]
    exact (writes_styled flat.2 coloured start).append (writes_styled clean coloured _)
  have tail : Falls width suggestion (view.tail.count '\n') := by
    rcases suggested with ⟨rfl, none⟩ | ⟨style, rfl⟩
    · rw [none]
      exact .nothing
    · exact plain.falls_tail coloured style
  obtain ⟨low, below, fallen, more, kept⟩ :=
    ((tail.append falls_clearRow).append (falls_rows (plain.flat_pagerRows listed) coloured)) typed
  refine ⟨prompt, _, prompted, (((writes_home area.above sheet).append text).append below).append
    (writes_back rows.length view.area.below (view.column prompt.cells) low), ⟨more, kept⟩, ?_, ?_⟩
  -- The rows of the pager and those of the text are gone up again, the line breaks of the suggestion are not.
  · have rows_above : (front view).count '\n' ≤ view.text.count '\n' := (List.take_sublist _ _).count_le _
    have left : view.area.below = view.text.count '\n' - (front view).count '\n' :=
      congrArg _ plain.area_above
    have typed_row : typed.row = sheet.row - area.above + view.text.count '\n' := by
      rw [lay_row, List.count_append, count_written, List.count_eq_zero_of_not_mem flat.1, Nat.zero_add]
    change low.row - rows.length - view.area.below = _
    omega
  · change 0 + view.column prompt.cells = _
    rw [Nat.zero_add, plain.column_eq]

inductive Edits : Notice → Prop
  | line {view : LineView} (plain : PlainView view) : Edits (.line view)
  | finish : Edits .finishLine
  | clear : Edits .clearScreen
  | interrupt : Edits .interruptMark

theorem written_write (canvas : Canvas) (t : Text) : (canvas.write t).written = canvas.written ++ t := by
  simp [Canvas.write, Canvas.written]

theorem draw_line {canvas next : Canvas} {view : LineView} (drawn : canvas.draw settings (.line view) = .ok next) :
    ∃ t, view.written settings canvas.coloured canvas.user canvas.area = .ok t ∧
      next = { canvas.write t with area := view.area } := by
  obtain ⟨t, written, made⟩ := bind_eq_ok.mp drawn
  exact ⟨t, written, (pure_eq_ok.mp made).symm⟩

/-- A line that is drawn next starts where the rows above the cursor end. -/
theorem writes_draw_line {canvas next : Canvas} {view : LineView} (plain : PlainView view)
    (named : OneLine canvas.user) (drawn : canvas.draw settings (.line view) = .ok next) {start now : Sheet}
    (writes : Writes width canvas.written start now) :
    ∃ prompt after, promptOf settings canvas.user view.folder = .ok prompt ∧ Writes width next.written start after ∧
      DrawnFrom width (now.row - canvas.area.above) prompt view now after := by
  obtain ⟨t, written, rfl⟩ := draw_line drawn
  obtain ⟨prompt, after, prompted, writes', from_row⟩ := writes_line plain named written now
  exact ⟨prompt, after, prompted, written_write canvas t ▸ writes.append writes', from_row⟩

private theorem writes_leave {canvas : Canvas} {start now after : Sheet}
    (writes : Writes width canvas.written start now)
    (behind : Writes width t { now with row := now.row + canvas.area.below } after) :
    Writes width (canvas.leave t).written start after := by
  have written : (canvas.leave t).written = canvas.written ++ (canvas.area.leave ++ t) := written_write canvas _
  rw [written]
  exact writes.append ((writes_down _).append behind)

private theorem writes_draw {canvas next : Canvas} {notice : Notice} (edits : Edits notice)
    (named : OneLine canvas.user)
    (drawn : canvas.draw settings notice = .ok next) {start now : Sheet}
    (writes : Writes width canvas.written start now) :
    next.user = canvas.user ∧ ∃ after, Writes width next.written start after := by
  cases edits with
  | line plain =>
    obtain ⟨prompt, after, -, written, -⟩ := writes_draw_line plain named drawn writes
    obtain ⟨t, -, rfl⟩ := draw_line drawn
    exact ⟨rfl, after, written⟩
  | finish =>
    cases drawn
    exact ⟨rfl, _, writes_leave writes (writes_newRow.append writes_clearBelow)⟩
  | clear =>
    cases drawn
    exact ⟨rfl, _, written_write canvas _ ▸ writes.append writes_clearScreen⟩
  | interrupt =>
    cases drawn
    have mark : Clean ("^C" : Text) := by decide
    exact ⟨rfl, _, writes_leave writes ((writes_clean mark _).append writes_newRow)⟩

/-- The canvas after some notices. One that cannot be drawn leaves it as it is. -/
def draws (settings : Settings) : Canvas → List Notice → Canvas :=
  List.foldl fun canvas notice => (canvas.draw settings notice).toOption.getD canvas

private theorem writes_draws {notices : List Notice} (edits : ∀ notice ∈ notices, Edits notice)
    {canvas : Canvas} (named : OneLine canvas.user) {start now : Sheet}
    (writes : Writes width canvas.written start now) :
    (draws settings canvas notices).user = canvas.user ∧
      ∃ after, Writes width (draws settings canvas notices).written start after := by
  induction notices generalizing canvas now with
  | nil => exact ⟨rfl, now, writes⟩
  | cons notice notices ih =>
    obtain ⟨here, behind⟩ := List.forall_mem_cons.mp edits
    cases drawn : canvas.draw settings notice with
    | error fault =>
      have same : draws settings canvas (notice :: notices) = draws settings canvas notices := by
        rw [draws, List.foldl_cons, drawn]
        rfl
      exact same ▸ ih behind named writes
    | ok next =>
      have moved : draws settings canvas (notice :: notices) = draws settings next notices := by
        rw [draws, List.foldl_cons, drawn]
        rfl
      obtain ⟨user, after, written⟩ := writes_draw here named drawn writes
      rw [moved, ← user]
      exact ih behind (user ▸ named) written

/-- Two lines that are drawn one after the other stand in the same row, but for the line breaks of the
suggestion behind the first. -/
theorem redraws {canvas next last : Canvas} {view later : LineView} (plain : PlainView view)
    (plain' : PlainView later) (named : OneLine canvas.user)
    (drawn : canvas.draw settings (.line view) = .ok next)
    (drawn' : next.draw settings (.line later) = .ok last) {start before after : Sheet} {row : Nat}
    {prompt : StyledText} (writes : Writes width next.written start after)
    (placed : DrawnFrom width row prompt view before after) :
    ∃ prompt' again, promptOf settings canvas.user later.folder = .ok prompt' ∧
      Writes width last.written start again ∧
      DrawnFrom width (row + view.tail.count '\n') prompt' later after again := by
  obtain ⟨t, -, same⟩ := draw_line drawn
  have area : next.area = view.area := congrArg Canvas.area same
  have user : next.user = canvas.user := (congrArg Canvas.user same).trans rfl
  obtain ⟨prompt', again, prompted', writes', placed'⟩ :=
    writes_draw_line plain' (user.symm ▸ named) drawn' writes
  have same_row : after.row - next.area.above = row + view.tail.count '\n' := by
    rw [placed.row, area, plain.area_above]
    omega
  rw [same_row] at placed'
  exact ⟨prompt', again, user ▸ prompted', writes', placed'⟩

def blank (coloured : Bool) (columns : Nat) (user : Text) : Canvas := { coloured, width := columns, user }

/-- Wherever the cursor was and whatever was drawn before, drawing a line leaves the cursor of the
terminal where the cursor of the line is, counted from the row of the prompt, and the line is drawn
again from that row. Line breaks of a suggestion are the exception: the cursor is left that much lower,
and so is the next prompt. -/
theorem cursor_follows_line (named : OneLine user) (coloured : Bool) (columns : Nat) (start : Sheet)
    {notices : List Notice} (edits : ∀ notice ∈ notices, Edits notice) {view : LineView} (plain : PlainView view) :
    (Legible settings view →
      Returns ((draws settings (blank coloured columns user) notices).draw settings (.line view))) ∧
    ∀ next, (draws settings (blank coloured columns user) notices).draw settings (.line view) = .ok next →
      ∃ row prompt before after, promptOf settings user view.folder = .ok prompt ∧
        Writes width (draws settings (blank coloured columns user) notices).written start before ∧
        Writes width next.written start after ∧ DrawnFrom width row prompt view before after ∧
        ∀ later last, PlainView later → next.draw settings (.line later) = .ok last →
          ∃ prompt' again, promptOf settings user later.folder = .ok prompt' ∧
            Writes width last.written start again ∧
            DrawnFrom width (row + view.tail.count '\n') prompt' later after again := by
  have fresh : Writes width (blank coloured columns user).written start start := .nothing start
  obtain ⟨same, before, writes⟩ := @writes_draws width settings notices edits (blank coloured columns user)
    named start start fresh
  refine ⟨fun legible => (legible.written _ _ _).bind fun _ => .value _, fun next drawn => ?_⟩
  have kept : (draws settings (blank coloured columns user) notices).user = user := same
  obtain ⟨prompt, after, prompted, written, placed⟩ := writes_draw_line plain (kept.symm ▸ named) drawn writes
  refine ⟨_, prompt, before, after, kept ▸ prompted, writes, written, placed, fun later last plain' drawn' => ?_⟩
  obtain ⟨prompt', again, prompted', written', placed'⟩ :=
    redraws plain plain' (kept.symm ▸ named) drawn drawn' written placed
  exact ⟨prompt', again, kept ▸ prompted', written', placed'⟩

def unstyled : Settings := { bareShell.settings with promptStyles := [] }

private theorem legible_unstyled {view : LineView} (spanless : view.spans = none) :
    Legible unstyled view where
  styles _ := .value Style.plain
  spans := by
    rw [spanless]
    exact List.forall_mem_nil _
  rows := ⟨5, rfl⟩

theorem printable_of_all {t : Text} (all : (t.all fun c => Text.isPrintable c || c == '\n') = true) :
    ∀ c ∈ t, Text.isPrintable c = true ∨ c = '\n' := by simpa using all

def twoLines : LineView := { folder := "~", text := "ls\nsort", cursor := 5 }

theorem plain_twoLines : PlainView twoLines where
  text := printable_of_all (by decide)
  start := by decide
  stop := by decide
  folder := ⟨by decide, by decide⟩
  pager _ opened := absurd opened (by simp [twoLines])
  tail := by decide

theorem two_lines_followed :
    OneLine "me" ∧ (∀ notice ∈ [Notice.line twoLines, .finishLine], Edits notice) ∧ PlainView twoLines ∧
    ∃ next row prompt before after,
      (draws unstyled (blank false 80 "me") [.line twoLines, .finishLine]).draw unstyled (.line twoLines) =
        .ok next ∧
      Writes (fun _ => 1) next.written ⟨0, 0, []⟩ after ∧ DrawnFrom (fun _ => 1) row prompt twoLines before after ∧
      after.row = row + 1 ∧ after.column = 2 := by
  have named : OneLine "me" := ⟨by decide, by decide⟩
  have edits : ∀ notice ∈ [Notice.line twoLines, .finishLine], Edits notice :=
    List.forall_mem_cons.mpr ⟨.line plain_twoLines, List.forall_mem_singleton.mpr .finish⟩
  obtain ⟨returns, follows⟩ := @cursor_follows_line (fun _ => 1) unstyled "me" named false 80 ⟨0, 0, []⟩ _ edits
    _ plain_twoLines
  obtain ⟨next, drawn⟩ := returns (legible_unstyled rfl)
  obtain ⟨row, prompt, before, after, -, -, written, placed, -⟩ := follows next drawn
  exact ⟨named, edits, plain_twoLines, next, row, prompt, before, after, drawn, written, placed, placed.row,
    placed.column⟩

def halfTyped : LineView := { folder := "~", text := "ls", cursor := 2, suggestion := some "ls\nfoo" }

theorem plain_halfTyped : PlainView halfTyped where
  text := printable_of_all (by decide)
  start := by decide
  stop := by decide
  folder := ⟨by decide, by decide⟩
  pager _ opened := absurd opened (by simp [halfTyped])
  tail := by decide

/-- No line break stands in front of the cursor, but it is left in the row below the prompt, and the
next prompt is drawn there. -/
theorem broken_suggestion_lowers :
    ∃ next last prompt prompt' after again, (blank false 80 "me").draw unstyled (.line halfTyped) = .ok next ∧
      next.draw unstyled (.line halfTyped) = .ok last ∧
      Writes (fun _ => 1) next.written ⟨0, 0, []⟩ after ∧ Writes (fun _ => 1) last.written ⟨0, 0, []⟩ again ∧
      DrawnFrom (fun _ => 1) 0 prompt halfTyped ⟨0, 0, []⟩ after ∧
      after.row ≠ 0 + (front halfTyped).count '\n' ∧ DrawnFrom (fun _ => 1) 1 prompt' halfTyped after again := by
  have named : OneLine "me" := ⟨by decide, by decide⟩
  have legible : Legible unstyled halfTyped := legible_unstyled rfl
  obtain ⟨next, drawn⟩ : Returns ((blank false 80 "me").draw unstyled (.line halfTyped)) :=
    (legible.written _ _ _).bind fun _ => .value _
  obtain ⟨last, drawn'⟩ : Returns (next.draw unstyled (.line halfTyped)) :=
    (legible.written _ _ _).bind fun _ => .value _
  obtain ⟨prompt, after, -, written, placed⟩ :=
    @writes_draw_line (fun _ => 1) _ _ _ _ plain_halfTyped named drawn ⟨0, 0, []⟩ _ (.nothing _)
  obtain ⟨prompt', again, -, written', placed'⟩ :=
    redraws plain_halfTyped plain_halfTyped named drawn drawn' written placed
  refine ⟨next, last, prompt, prompt', after, again, drawn, drawn', written, written', placed, ?_, placed'⟩
  rw [placed.row]
  decide

end CommandShell.Proofs.CursorRow
