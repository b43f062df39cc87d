import CommandShell.Proofs.EditorRanges
import CommandShell.Proofs.LineParts
import Mathlib.Algebra.Ring.Int.Defs
import Mathlib.Data.List.Forall2

/-! Which candidate of a pager is selected, and which rows are drawn around it. The selection goes round
in a circle; the window has the selected candidate in it, whatever its size is. -/

namespace CommandShell.Proofs.PagerWindow
open EditorRanges LineParts

inductive Move
  | next
  | previous

namespace Move

def apply : Move → Pager → Pager
  | next, pager => pager.next
  | previous, pager => pager.previous

def amount : Move → Int
  | next => 1
  | previous => -1

def opposite : Move → Move
  | next => previous
  | previous => next

private theorem amount_opposite (move : Move) : move.opposite.amount = -move.amount := by
  cases move <;> rfl

end Move

inductive PagerStep
  | fill (candidates : List Candidate) (filter : Text)
  | clear
  | select (move : Move)

def PagerStep.apply : PagerStep → Pager → Pager
  | fill candidates filter, _ => .ofCandidates candidates filter
  | clear, _ => {}
  | select move, pager => move.apply pager

def pagerAfter (steps : List PagerStep) : Pager := steps.foldl (fun pager step => step.apply pager) {}

section Selection

variable {pager : Pager}

theorem active_of_filled (filled : pager.candidates ≠ []) : pager.active = true := by
  simpa [Pager.active] using filled

private theorem chosen_step {step : PagerStep} (chosen : Chosen pager) : Chosen (step.apply pager) := by
  cases step with
  | fill | clear => exact .inl rfl
  | select move =>
    cases move with
    | next => exact chosen_next chosen
    | previous => exact chosen_previous chosen

private theorem chosen_after (steps : List PagerStep) : Chosen (pagerAfter steps) := by
  have run (pager : Pager) (chosen : Chosen pager) :
      Chosen (steps.foldl (fun pager step => step.apply pager) pager) := by
    induction steps generalizing pager with
    | nil => exact chosen
    | cons step steps ih => exact ih _ (chosen_step chosen)
  exact run {} (.inl rfl)

theorem move_selected (pager : Pager) (move : Move) {offset : Int} (filled : pager.candidates ≠ [])
    (here : (pager.selected : Int) = offset % pager.candidates.length) :
    ∃ selected : Nat, move.apply pager = { pager with selected } ∧
      (selected : Int) = (offset + move.amount) % pager.candidates.length := by
  have active := active_of_filled filled
  have positive := PagerWord.count_pos active
  cases move with
  | next =>
    refine ⟨_, if_pos active, ?_⟩
    rw [Int.natCast_emod, Int.natCast_add, here, Int.emod_add_emod]
    rfl
  | previous =>
    refine ⟨_, if_pos active, ?_⟩
    have back : ((pager.selected + pager.candidates.length - 1 : Nat) : Int) =
        pager.selected + (-1) + pager.candidates.length := by omega
    rw [Int.natCast_emod, back, Int.add_emod_right, here, Int.emod_add_emod]
    rfl

private theorem move_empty (move : Move) (empty : pager.candidates = []) : move.apply pager = pager := by
  have closed : ¬ pager.active = true := by simp [Pager.active, empty]
  cases move with
  | next | previous => exact if_neg closed

private theorem move_undone (move : Move) (chosen : Chosen pager) :
    move.opposite.apply (move.apply pager) = pager := by
  by_cases filled : pager.candidates = []
  · rw [move_empty move filled, move_empty _ filled]
  · have inside : (pager.selected : Int) < pager.candidates.length :=
      Int.ofNat_lt.mpr (lt_of_chosen chosen (active_of_filled filled))
    have reduced : (pager.selected : Int) = pager.selected % pager.candidates.length :=
      (Int.emod_eq_of_lt (Int.natCast_nonneg _) inside).symm
    obtain ⟨moved, on, there⟩ := move_selected pager move filled reduced
    obtain ⟨selected, back, here⟩ :=
      move_selected { pager with selected := moved } move.opposite filled there
    have same : selected = pager.selected := by
      rw [Move.amount_opposite, Int.add_neg_cancel_right, ← reduced] at here
      exact Int.natCast_inj.mp here
    rw [on, back, same]

private theorem moves_selected (pager : Pager) (moves : List Move) {offset : Int}
    (filled : pager.candidates ≠ [])
    (here : (pager.selected : Int) = offset % pager.candidates.length) :
    ∃ selected : Nat,
      moves.foldl (fun pager move => move.apply pager) pager = { pager with selected } ∧
      (selected : Int) = (offset + (moves.map Move.amount).sum) % pager.candidates.length := by
  induction moves generalizing pager offset with
  | nil => exact ⟨pager.selected, rfl, by simpa using here⟩
  | cons move moves ih =>
    obtain ⟨next, moved, there⟩ := move_selected pager move filled here
    obtain ⟨selected, later, last⟩ := ih { pager with selected := next } filled there
    refine ⟨selected, ?_, ?_⟩
    · rw [List.foldl_cons, moved, later]
    · rwa [List.map_cons, List.sum_cons, ← Int.add_assoc]

end Selection

section Window

variable {pager : Pager} {most : Int}

/-- The part of the candidates that is shown: as many as there is room for, the selected one with
them. -/
structure Shown (pager : Pager) (most : Int) (start stop : Nat) : Prop where
  window : pager.window most = ((start : Int), (stop : Int))
  ordered : start ≤ stop
  inside : stop ≤ pager.candidates.length
  size : (stop : Int) - start = min (pager.candidates.length : Int) most
  selected : pager.candidates ≠ [] → start ≤ pager.selected ∧ pager.selected < stop

private theorem shown_window (chosen : Chosen pager) (room : 1 ≤ most) :
    ∃ start stop, Shown pager most start stop := by
  have inside (filled : pager.candidates ≠ []) : pager.selected < pager.candidates.length :=
    lt_of_chosen chosen (active_of_filled filled)
  by_cases fits : (pager.candidates.length : Int) ≤ most
  · refine ⟨0, pager.candidates.length, ?_, Nat.zero_le _, Nat.le_refl _, by omega, ?_⟩
    · rw [Pager.window, if_pos fits]
      rfl
    · exact fun filled => ⟨Nat.zero_le _, inside filled⟩
  · let start := min (max 0 (pager.selected - most + 1)) (pager.candidates.length - most)
    have positive : 0 ≤ start := by omega
    refine ⟨start.toNat, (start + most).toNat, ?_, by omega, by omega, by omega, fun filled => ?_⟩
    · rw [Pager.window, if_neg fits, Int.toNat_of_nonneg positive, Int.toNat_of_nonneg (by omega)]
    · have below := inside filled
      omega

end Window

section Rows

structure RowStyles where
  chosen : Style
  item : Style
  description : Style

structure Gives (settings : Settings) (styles : RowStyles) : Prop where
  chosen : settings.promptStyle "pager_selected" = .ok styles.chosen
  item : settings.promptStyle "pager_item" = .ok styles.item
  description : settings.promptStyle "pager_description" = .ok styles.description

/-- What stands behind a candidate: its description with two spaces in front, unless that is empty. -/
def remark (candidate : Candidate) : Text :=
  match candidate.description with
  | some (c :: description) => ' ' :: ' ' :: c :: description
  | _ => []

/-- The row of a candidate: its text in the style of the selected one or of the others, and its
description in the style of descriptions. -/
structure Shows (styles : RowStyles) (chosen : Bool) (candidate : Candidate) (row : StyledText) :
    Prop where
  text : row.text = Text.withoutControls (candidate.display ++ remark candidate)
  base : row.base = if chosen then styles.chosen else styles.item
  stretches : ∀ stretch ∈ row.stretches, stretch.style = styles.description ∧
    stretch.start = (Text.withoutControls candidate.display).length + 2 ∧
    stretch.stop = row.text.length

variable {settings : Settings} {styles : RowStyles}

private theorem rowOf_shows (gives : Gives settings styles) (chosen : Bool) (candidate : Candidate) :
    ∃ row, Pager.rowOf settings chosen candidate = .ok row ∧ Shows styles chosen candidate row := by
  have style : settings.promptStyle (if chosen then "pager_selected" else "pager_item") =
      .ok (if chosen then styles.chosen else styles.item) := by
    cases chosen
    · exact gives.item
    · exact gives.chosen
  obtain ⟨display, value, description⟩ := candidate
  unfold Pager.rowOf
  rw [style]
  rcases description with _ | _ | ⟨c, description⟩
  · exact ⟨_, rfl, by simp [remark, StyledText.ofText], rfl, List.forall_mem_nil _⟩
  · exact ⟨_, rfl, by simp [remark, StyledText.ofText], rfl, List.forall_mem_nil _⟩
  · refine ⟨_, bind_eq_ok.mpr ⟨_, rfl, bind_eq_ok.mpr ⟨_, gives.description, rfl⟩⟩, ?_, rfl, ?_⟩
    · simp only [remark, StyledText.append, StyledText.ofText, Text.withoutControls,
        ← List.filter_append, List.append_assoc]
      rfl
    · intro stretch inside
      have gap : Text.withoutControls "  " = "  ".toList := by decide
      have unstyled : Style.plain.isPlain = true := by decide
      simp only [StyledText.append, StyledText.ofText, gap, unstyled, Bool.or_true, if_true,
        List.nil_append, List.mem_ite_nil_left] at inside
      obtain ⟨-, inside⟩ := inside
      obtain rfl := List.mem_singleton.mp inside
      refine ⟨rfl, List.length_append, ?_⟩
      rw [← List.length_append]
      rfl

def ShowAll (styles : RowStyles) (selected : Nat) (entries : List (Candidate × Nat))
    (rows : List StyledText) : Prop :=
  List.Forall₂ (fun entry row => Shows styles (entry.2 == selected) entry.1 row) entries rows

private theorem rowsFrom_shows (gives : Gives settings styles) (selected position : Nat)
    (candidates : List Candidate) :
    ∃ rows, Pager.rowsFrom settings selected position candidates = .ok rows ∧
      ShowAll styles selected (candidates.zipIdx position) rows := by
  induction candidates generalizing position with
  | nil => exact ⟨[], rfl, .nil⟩
  | cons candidate rest ih =>
    obtain ⟨row, drawn, shows⟩ := rowOf_shows gives (position == selected) candidate
    obtain ⟨rows, drawn', later⟩ := ih (position + 1)
    exact ⟨row :: rows, bind_eq_ok.mpr ⟨row, drawn, bind_eq_ok.mpr ⟨rows, drawn', rfl⟩⟩,
      .cons shows later⟩

private theorem item_of_shows {selected : Nat} {entries : List (Candidate × Nat)} {rows : List StyledText}
    (shows : ShowAll styles selected entries rows) (others : ∀ entry ∈ entries, entry.2 ≠ selected) :
    ∀ row ∈ rows, row.base = styles.item := by
  induction shows with
  | nil => exact List.forall_mem_nil _
  | cons shown _ ih =>
    obtain ⟨other, others⟩ := List.forall_mem_cons.mp others
    refine List.forall_mem_cons.mpr ⟨?_, ih others⟩
    rw [shown.base, if_neg (by simpa using other)]

def OneChosen (styles : RowStyles) (rows : List StyledText) : Prop :=
  ∃ front row behind, rows = front ++ row :: behind ∧ row.base = styles.chosen ∧
    ∀ other ∈ front ++ behind, other.base = styles.item

private theorem oneChosen_of_shows {selected position : Nat} {candidates : List Candidate}
    {rows : List StyledText} (shows : ShowAll styles selected (candidates.zipIdx position) rows)
    (above : position ≤ selected) (below : selected < position + candidates.length) :
    OneChosen styles rows := by
  induction candidates generalizing position rows with
  | nil => exact absurd below (Nat.not_lt.mpr above)
  | cons candidate rest ih =>
    rw [List.zipIdx_cons] at shows
    obtain ⟨row, later, shown, others, rfl⟩ := List.forall₂_cons_left_iff.mp shows
    by_cases here : position = selected
    · refine ⟨[], row, later, rfl, ?_, ?_⟩
      · rw [shown.base, if_pos (by simpa using here)]
      · refine item_of_shows others fun entry inside => ?_
        have behind := List.le_snd_of_mem_zipIdx inside
        omega
    · have onward : position + 1 ≤ selected := by omega
      rw [List.length_cons] at below
      obtain ⟨front, chosen, behind, rfl, base, items⟩ := ih others onward (by omega)
      refine ⟨row :: front, chosen, behind, rfl, base, List.forall_mem_cons.mpr ⟨?_, items⟩⟩
      rw [shown.base, if_neg (by simpa using here)]

/-- The row that says which of how many candidates is selected, if not all of them are shown. -/
def placeRows (styles : RowStyles) (pager : Pager) (most : Int) : List StyledText :=
  if most < pager.candidates.length then
    [.ofText (Text.ofNat (pager.selected + 1) ++ '/' :: Text.ofNat pager.candidates.length)
      styles.description]
  else []

/-- The rows of a pager: those of the candidates that are shown, in one of which the selected one stands
out, and behind them the row for the place in the list. -/
def Drawn (styles : RowStyles) (pager : Pager) (most : Int) (start stop : Nat)
    (rows : List StyledText) : Prop :=
  ∃ entries, rows = entries ++ placeRows styles pager most ∧
    ShowAll styles pager.selected
      (((pager.candidates.drop start).take (stop - start)).zipIdx start) entries ∧
    (pager.candidates ≠ [] → OneChosen styles entries)

private theorem rows_shown {pager : Pager} {most : Int} {start stop : Nat}
    (shown : Shown pager most start stop)
    (limited : settings.pagerRows = .int most) (gives : Gives settings styles) :
    ∃ rows, pager.rows settings = .ok rows ∧ Drawn styles pager most start stop rows := by
  obtain ⟨window, ordered, inside, size, selected⟩ := shown
  obtain ⟨entries, drawn, shows⟩ := rowsFrom_shows gives pager.selected start
    ((pager.candidates.drop start).take (stop - start))
  have count : ((pager.candidates.drop start).take (stop - start)).length = stop - start := by
    rw [List.length_take_of_le]
    rw [List.length_drop]
    omega
  refine ⟨entries ++ placeRows styles pager most, ?_, entries, rfl, shows, fun filled => ?_⟩
  · have limits : settings.pagerWindow pager = .ok ((start : Int), (stop : Int)) := by
      rw [Settings.pagerWindow, limited, ← window]
    have rows : Pager.rowsFrom settings pager.selected (start : Int).toNat
        ((pager.candidates.drop (start : Int).toNat).take ((stop : Int) - start).toNat) =
          .ok entries := by
      rwa [Int.toNat_natCast, Int.toNat_sub]
    refine bind_eq_ok.mpr ⟨_, limits, bind_eq_ok.mpr ⟨entries, rows, ?_⟩⟩
    by_cases more : most < pager.candidates.length
    · rw [if_pos (by omega), placeRows, if_pos more]
      exact bind_eq_ok.mpr ⟨_, bind_eq_ok.mpr ⟨_, gives.description, rfl⟩, rfl⟩
    · rw [if_neg (by omega), placeRows, if_neg more, List.append_nil]
      rfl
  · obtain ⟨above, below⟩ := selected filled
    refine oneChosen_of_shows shows above ?_
    rw [count]
    omega

end Rows

/-- Whatever is done to a pager, its selection is one of the candidates, and each move is undone by the
other; moves go round in a circle. The rows that are drawn are those of a window around the selected
candidate, which alone has the style of a selected one. -/
theorem selection_stays_shown (steps : List PagerStep) :
    let pager := pagerAfter steps
    (pager.candidates = [] → pager.selected = 0) ∧
    (pager.candidates ≠ [] → pager.selected < pager.candidates.length) ∧
    pager.next.previous = pager ∧ pager.previous.next = pager ∧
    (∀ candidates filter (moves : List Move), candidates ≠ [] →
      let moved := pagerAfter (steps ++ .fill candidates filter :: moves.map .select)
      moved.candidates = candidates ∧
        (moved.selected : Int) = (moves.map Move.amount).sum % candidates.length) ∧
    ∀ most, 1 ≤ most → ∃ start stop, Shown pager most start stop ∧
      ∀ settings styles, settings.pagerRows = .int most → Gives settings styles →
        ∃ rows, pager.rows settings = .ok rows ∧ Drawn styles pager most start stop rows := by
  intro pager
  have chosen : Chosen pager := chosen_after steps
  refine ⟨fun empty => ?_, fun filled => ?_, move_undone .next chosen,
    move_undone .previous chosen, ?_, ?_⟩
  · rcases chosen with first | inside
    · exact first
    · simp [empty] at inside
  · exact lt_of_chosen chosen (active_of_filled filled)
  · intro candidates filter moves filled
    have run : pagerAfter (steps ++ .fill candidates filter :: moves.map .select) =
        moves.foldl (fun pager move => move.apply pager) (.ofCandidates candidates filter) := by
      rw [pagerAfter, List.foldl_append, List.foldl_cons, List.foldl_map]
      rfl
    obtain ⟨selected, moved, there⟩ :=
      moves_selected (.ofCandidates candidates filter) moves filled (Int.zero_emod _).symm
    rw [run, moved]
    exact ⟨rfl, by rwa [Int.zero_add] at there⟩
  · intro most room
    obtain ⟨start, stop, shown⟩ := shown_window chosen room
    exact ⟨start, stop, shown, fun settings styles limited gives => rows_shown shown limited gives⟩

def seven : List Candidate :=
  ["a0", "a1", "a2", "a3", "a4", "a5", "a6"].map fun name => ⟨name, name, some "File"⟩

def marked : Settings := { bareShell.settings with promptStyles := [("pager_selected", "reverse")] }

private theorem gives_marked : ∃ styles, Gives marked styles := by
  have read : (marked.promptStyle "pager_selected").isOk = true := by decide +kernel
  cases chosen : marked.promptStyle "pager_selected" with
  | error fault =>
    rw [chosen] at read
    cases read
  | ok style => exact ⟨⟨style, .plain, .plain⟩, chosen, rfl, rfl⟩

/-- One move back from the first of seven candidates selects the last, which is in the window of five. -/
theorem last_candidate_shown :
    let pager := pagerAfter ([] ++ .fill seven "a" :: [Move.previous].map .select)
    seven ≠ [] ∧ pager.selected = 6 ∧ (1 : Int) ≤ 5 ∧ marked.pagerRows = .int 5 ∧
    ∃ styles, Gives marked styles ∧ Shown pager 5 2 7 ∧
      ∃ rows, pager.rows marked = .ok rows ∧ Drawn styles pager 5 2 7 rows := by
  intro pager
  have filled : seven ≠ [] := by decide
  obtain ⟨styles, gives⟩ := gives_marked
  obtain ⟨-, -, -, -, moves, -⟩ := selection_stays_shown []
  obtain ⟨candidates, selected⟩ := moves seven "a" [.previous] filled
  obtain ⟨-, -, -, -, -, window⟩ := selection_stays_shown (.fill seven "a" :: [.select .previous])
  obtain ⟨start, stop, shown, drawn⟩ := window 5 (by decide)
  have placed : pager.window 5 = ((start : Int), (stop : Int)) := shown.window
  have known : pager.window 5 = (2, 7) := by decide
  obtain ⟨rfl, rfl⟩ : start = 2 ∧ stop = 7 := by
    rw [known, Prod.mk.injEq] at placed
    omega
  exact ⟨filled, Int.natCast_inj.mp selected, by decide, rfl, styles, gives, shown,
    drawn _ styles rfl gives⟩

end CommandShell.Proofs.PagerWindow
