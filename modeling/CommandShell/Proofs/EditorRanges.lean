import CommandShell.Proofs.HistoryWalk
import CommandShell.Proofs.PagerWord
import CommandShell.Proofs.WorkFaults

/-! The cursor, the selected candidate and the place in the history stay in range, whatever is typed and
whichever presses fail. -/

namespace CommandShell.Proofs.EditorRanges
open ActSteps KeyRuns KeyTurns Shell WorkFaults

def Placed (editor : Editor) (history : History) : Prop :=
  ∀ place, editor.position = some place → place ≤ history.entries.length

section Places

variable {editor : Editor} {history : History}

theorem placed_ended (history : History) (ended : editor.position = none) : Placed editor history := by
  intro place walking
  cases ended.symm.trans walking

private theorem found_lt {front : Text} {start step : Int} {index : Nat}
    (found : history.find? front start step = some index) : index < history.entries.length := by
  obtain ⟨entry, present, -⟩ := HistoryWalk.seek_some found
  exact (List.getElem?_eq_some_iff.mp present).1

private theorem placed_showEntry {front : Text} {start step : Int} {index : Nat}
    (found : history.find? front start step = some index) :
    Placed (editor.showEntry history index) history := by
  have present := found_lt found
  intro place walking
  rw [Editor.showEntry, List.getElem?_eq_getElem present] at walking
  obtain rfl := Option.some.inj walking
  exact Nat.le_of_lt present

private theorem placed_beginWalk (placed : Placed editor history) :
    Placed (editor.beginWalk history) history := by
  unfold Editor.beginWalk
  split
  · exact placed
  · intro place walking
    obtain rfl := Option.some.inj walking
    exact Nat.le_refl _

private theorem placed_older (placed : Placed editor history) : Placed (editor.older history) history := by
  unfold Editor.older
  dsimp only
  split
  next index found => exact placed_showEntry found
  next => exact placed_beginWalk placed

private theorem placed_newer (placed : Placed editor history) : Placed (editor.newer history) history := by
  unfold Editor.newer
  split
  · exact placed
  · split
    next index found => exact placed_showEntry found
    next => exact placed_ended history rfl

end Places

def Chosen (pager : Pager) : Prop := pager.selected = 0 ∨ pager.selected < pager.candidates.length

theorem chosen_next {pager : Pager} (chosen : Chosen pager) : Chosen pager.next := by
  unfold Pager.next
  split
  next active => exact .inr (Nat.mod_lt _ (PagerWord.count_pos active))
  next => exact chosen

theorem chosen_previous {pager : Pager} (chosen : Chosen pager) : Chosen pager.previous := by
  unfold Pager.previous
  split
  next active => exact .inr (Nat.mod_lt _ (PagerWord.count_pos active))
  next => exact chosen

theorem lt_of_chosen {pager : Pager} (chosen : Chosen pager) (active : pager.active = true) :
    pager.selected < pager.candidates.length := by
  rcases chosen with first | present
  · rw [first]
    exact PagerWord.count_pos active
  · exact present

private theorem current_of_chosen {pager : Pager} (chosen : Chosen pager) (active : pager.active = true) :
    ∃ candidate, pager.current? = some candidate :=
  ⟨_, List.getElem?_eq_getElem (lt_of_chosen chosen active)⟩

/-- The cursor lies in the line, and the selected candidate and the place in the history are there. -/
structure InRange (shell : Shell) : Prop where
  cursor : Inside shell.editor.buffer
  selected : Chosen shell.session.pager
  position : Placed shell.editor shell.session.history

section Keys

variable {manual : List ManualRequest → Outcome × Text}

/-- Work of the editor that keeps the manual and all in range, and ends with no fault but allowed ones. -/
abbrev Calm {α : Type} (manual : List ManualRequest → Outcome × Text) (act : Act Shell α) : Prop :=
  Safe (fun shell => shell.world.manual = manual ∧ InRange shell) (Allowed manual) (fun _ => True) act

theorem calm_changePager {change : Pager → Pager} (chosen : ∀ pager, Chosen pager → Chosen (change pager)) :
    Calm manual (changePager change) :=
  .change fun _ held => ⟨held.1, held.2.cursor, chosen _ held.2.selected, held.2.position⟩

theorem calm_closePager : Calm manual closePager := calm_changePager fun _ _ => .inl rfl

theorem calm_changeEditor {change : Editor → Editor}
    (inside : ∀ editor, Inside editor.buffer → Inside (change editor).buffer)
    (placed : ∀ editor history, Placed editor history → Placed (change editor) history) :
    Calm manual (changeEditor change) :=
  .change fun _ held =>
    ⟨held.1, inside _ held.2.cursor, held.2.selected, placed _ _ held.2.position⟩

theorem calm_edit {change : LineBuffer → LineBuffer} (inside : KeepsInside change) :
    Calm manual (edit change) :=
  calm_changeEditor (fun editor => inside editor.buffer) fun _ history _ => placed_ended history rfl

theorem calm_shift {change : LineBuffer → LineBuffer} (inside : KeepsInside change) :
    Calm manual (changeEditor (·.move change)) :=
  calm_changeEditor (fun editor => inside editor.buffer) fun _ _ placed => placed

theorem calm_move {change : LineBuffer → LineBuffer} (inside : KeepsInside change) :
    Calm manual (move change) := by
  apply Safe.next calm_closePager
  intro _
  exact calm_shift inside

private theorem calm_acceptOrMove : Calm manual acceptOrMove := by
  apply Safe.next calm_closePager
  intro _
  apply Safe.read
  intro shell _
  apply calm_changeEditor
  · intro editor inside
    unfold Editor.acceptOrMove
    split
    · split
      next suggestion _ _ => exact inside_ofText suggestion
      next => exact keepsInside_moveRight _ inside
    · exact keepsInside_moveRight _ inside
  · intro editor history placed
    unfold Editor.acceptOrMove
    split
    · split
      next => exact placed_ended history rfl
      next => exact placed
    · exact placed

private theorem safe_inWorld {α : Type} {values : α → Prop} {act : Act World α}
    (safe : Safe (fun world => world.manual = manual) (Allowed manual) values act) :
    Safe (fun shell => shell.world.manual = manual ∧ InRange shell) (Allowed manual) values
      (inWorld act) := by
  intro shell held
  obtain ⟨still, ends⟩ := safe shell.world held.1
  exact ⟨⟨still, held.2.cursor, held.2.selected, held.2.position⟩, ends⟩

private theorem calm_complete : Calm manual complete := by
  apply Safe.read
  intro shell held
  apply Safe.bind (safe_inWorld (safe_complete held.2.cursor _ _ _))
  intro found first
  apply Safe.next
  · apply Safe.change
    intro _ held
    exact ⟨held.1, held.2.cursor, held.2.selected, held.2.position⟩
  · intro _
    apply calm_changePager
    intro _ _
    exact .inl first

private theorem calm_refreshPager : Calm manual refreshPager := by
  apply Safe.read
  intro shell _
  split
  · exact calm_complete
  · exact .value trivial

private theorem calm_expandAbbreviation : Calm manual expandAbbreviation := by
  apply Safe.read
  intro shell held
  have cursor : (shell.buffer.cursor : Int) ≤ shell.buffer.text.length := Int.ofNat_le.mpr held.2.cursor
  apply Safe.next (.result (ends_expandAt _ cursor))
  intro expanded
  apply calm_shift
  intro _ _
  exact inside_place _ _

/-- The history is not shorter once a line was entered, so the place in it is still there. -/
theorem calm_enteredLine (line : Text) : Calm manual (enteredLine line) := by
  -- The line is in the history before the walk ends, so the place is compared with the longer history.
  intro shell held
  obtain ⟨same, cursor, selected, position⟩ := held
  unfold enteredLine
  split
  · exact ⟨⟨same, cursor, selected, position⟩, trivial⟩
  · have expands : Ends (Allowed manual) (fun _ => True)
        (shell.session.abbreviations.expandAt line line.length) := ends_expandAt _ (Int.le_refl _)
    rw [on_bind, on_get]
    dsimp only
    rw [on_bind, on_ofExcept]
    cases whole : shell.session.abbreviations.expandAt line line.length with
    | error fault =>
      rw [whole] at expands
      exact ⟨⟨same, cursor, selected, position⟩, expands⟩
    | ok expanded =>
      have added := safe_add shell.session.history expanded.1 shell.world same
      simp only [inWorld, on_bind, on_part, on_liftM, changeSession, on_modify, on_discard, on_ofExcept] at added ⊢
      generalize (shell.session.history.add expanded.1 none).run shell.world = ran at added ⊢
      obtain ⟨⟨history, result⟩, world⟩ := ran
      obtain ⟨still, grows, ends⟩ := added
      have position (place : Nat) (walking : shell.editor.position = some place) :
          place ≤ history.entries.length := Nat.le_trans (position place walking) grows
      cases result with
      | ok => exact ⟨⟨still, cursor, selected, position⟩, trivial⟩
      | error fault => exact ⟨⟨still, cursor, selected, position⟩, ends⟩

private theorem calm_clear : Calm manual (changeEditor fun editor => { editor with buffer := {} }.stay) :=
  calm_changeEditor (fun _ _ => Nat.le_refl _) fun _ history _ => placed_ended history rfl

private theorem calm_enter : Calm manual enter := by
  apply Safe.read
  intro shell _
  split
  · apply Safe.next (calm_shift (keepsInside_replaceBefore _ _))
    intro _
    exact .next calm_closePager fun _ => .value trivial
  · apply Safe.next (calm_enteredLine _)
    intro line
    exact .next calm_clear fun _ => .value trivial

private theorem calm_endOrDelete : Calm manual endOrDelete := by
  apply Safe.read
  intro shell _
  split
  · exact calm_closePager
  · split
    · apply Safe.change
      intro _ held
      exact ⟨held.1, held.2.cursor, held.2.selected, held.2.position⟩
    · exact calm_edit keepsInside_deleteForward

theorem calm_done {act : Act Shell Unit} (calm : Calm manual act) :
    Calm manual (do act; return none : Act Shell (Option Request)) :=
  .next calm fun _ => .value trivial

theorem calm_refilled {change : LineBuffer → LineBuffer} (inside : KeepsInside change) :
    Calm manual (do edit change; refreshPager) :=
  .next (calm_edit inside) fun _ => calm_refreshPager

theorem calm_killed {change : LineBuffer → LineBuffer} (inside : KeepsInside change) :
    Calm manual (do edit change; closePager) :=
  .next (calm_edit inside) fun _ => calm_closePager

private theorem calm_typeChar (c : Char) : Calm manual (typeChar c) := by
  unfold typeChar
  split
  · apply calm_done
    apply Safe.read
    intro shell _
    split
    · exact calm_changePager fun _ => chosen_next
    · exact calm_complete
  · exact calm_done (calm_move keepsInside_moveHome)
  · exact calm_done (calm_move keepsInside_moveEnd)
  · exact calm_done (calm_move keepsInside_moveLeft)
  · exact calm_done calm_acceptOrMove
  · exact calm_done (calm_killed keepsInside_killWord)
  · exact calm_done (calm_killed keepsInside_killLine)
  · exact calm_done (calm_killed keepsInside_killToEnd)
  · exact .value trivial
  · exact .next calm_clear fun _ => .next calm_closePager fun _ => .value trivial
  · exact calm_done calm_endOrDelete
  · exact calm_done (calm_refilled keepsInside_deleteBack)
  · exact calm_done (calm_refilled keepsInside_deleteBack)
  · apply calm_done
    apply Safe.next calm_expandAbbreviation
    intro _
    exact calm_killed (keepsInside_insert _)
  · exact calm_enter
  · exact calm_enter
  · split
    · exact calm_done (calm_refilled (keepsInside_insert _))
    · exact .value trivial

private theorem calm_walk {turn : Pager → Pager} {walk : Editor → History → Editor}
    (chosen : ∀ pager, Chosen pager → Chosen (turn pager))
    (inside : ∀ {editor} history, Inside editor.buffer → Inside (walk editor history).buffer)
    (placed : ∀ {editor history}, Placed editor history → Placed (walk editor history) history) :
    Calm manual (do
      let session := (← get).session
      if session.pager.active then changePager turn
      else changeEditor (walk · session.history)) := by
  intro shell held
  rw [on_bind, on_get]
  dsimp only
  split
  · exact calm_changePager chosen shell held
  · exact ⟨⟨held.1, inside _ held.2.cursor, held.2.selected, placed held.2.position⟩, trivial⟩

/-- A pressed key keeps all in range, and ends with no stray fault unless the manual gives it. -/
theorem calm_press (key : Key) : Calm manual (press key) := by
  cases key with
  | char c => exact calm_typeChar c
  | altEnter => exact calm_done (calm_edit (keepsInside_insert _))
  | up => exact calm_done (calm_walk (fun _ => chosen_previous) inside_older placed_older)
  | down => exact calm_done (calm_walk (fun _ => chosen_next) inside_newer placed_newer)
  | right => exact calm_done calm_acceptOrMove
  | left => exact calm_done (calm_move keepsInside_moveLeft)
  | shiftTab => exact calm_done (calm_changePager fun _ => chosen_previous)
  | delete =>
    apply calm_done
    apply Safe.next calm_closePager
    intro _
    exact calm_edit keepsInside_deleteForward
  | cancel => exact calm_done calm_closePager

end Keys

section Runs

variable {serve : Request → Act Shell Unit} {allowed : Key → Shell → Prop} {start shell : Shell}
  {pending : List Key}

private theorem inRange_handle (leaves : Leaves serve) (inRange : InRange shell) (key : Key) :
    InRange ((handle serve key).on shell).2 := by
  obtain ⟨⟨-, pressed⟩, -⟩ := calm_press key shell ⟨rfl, inRange⟩
  rw [handle, on_bind]
  generalize (press key).on shell = ran at pressed
  obtain ⟨fault | request, middle⟩ := ran
  · exact pressed
  · cases request with
    | none => exact pressed
    | some request =>
      have editor := leaves.editor request middle
      have pager := leaves.pager request middle
      have history := leaves.history request middle
      refine ⟨?_, ?_, ?_⟩
      · exact editor ▸ pressed.cursor
      · exact pager ▸ pressed.selected
      · dsimp only
        rw [editor, history]
        exact pressed.position

/-- A press fails with no stray fault, unless the manual gives it or what the key asks for fails with it. -/
theorem fault_of_handle (inRange : InRange shell) {key : Key} {fault : Fault}
    (failed : ((handle serve key).on shell).1 = .error fault) :
    Allowed shell.world.manual fault ∨
      ∃ request, ((press key).on shell).1 = .ok (some request) ∧
        ((serve request).on ((press key).on shell).2).1 = .error fault := by
  obtain ⟨-, ends⟩ := calm_press key shell ⟨rfl, inRange⟩
  rw [handle, on_bind] at failed
  generalize (press key).on shell = ran at ends failed
  obtain ⟨other | request, middle⟩ := ran
  · obtain rfl := Except.error.inj failed
    exact .inl ends
  · cases request with
    | none => cases failed
    | some request => exact .inr ⟨request, rfl, failed⟩

private theorem inRange_of_typed (leaves : Leaves serve) (inRange : InRange start)
    (typed : Typed serve allowed start pending shell) : InRange shell := by
  induction typed with
  | start => exact inRange
  | char typed c ih => exact ⟨ih.cursor, ih.selected, ih.position⟩
  | handled typed permitted done ih => exact inRange_handle leaves ih _
  | failed typed permitted broke ih => exact inRange_handle leaves ih _

private theorem inRange_fresh (editor : start.editor = {}) (pager : start.session.pager = {}) :
    InRange start where
  cursor := by
    rw [editor]
    exact Nat.le_refl _
  selected := by
    rw [pager]
    exact .inl rfl
  position := by
    rw [editor]
    exact placed_ended _ rfl

/-- Whatever is typed, and whichever presses fail, the cursor, the selected candidate and the place in the
history stay in range. So an open pager has a current candidate, an entry that is found is there, and no press
fails with a stray fault of its own. -/
theorem typing_stays_in_range (leaves : Leaves serve) (editor : start.editor = {})
    (pager : start.session.pager = {}) (typed : Typed serve allowed start pending shell) :
    InRange shell ∧
      (shell.session.pager.active = true → ∃ candidate, shell.session.pager.current? = some candidate) ∧
      (∀ front first step index, shell.session.history.find? front first step = some index →
        ∃ entry, shell.session.history.entries[index]? = some entry) ∧
      ∀ key fault, ((handle serve key).on shell).1 = .error fault →
        Allowed shell.world.manual fault ∨
          ∃ request, ((press key).on shell).1 = .ok (some request) ∧
            ((serve request).on ((press key).on shell).2).1 = .error fault := by
  have inRange := inRange_of_typed leaves (inRange_fresh editor pager) typed
  refine ⟨inRange, current_of_chosen inRange.selected, ?_, ?_⟩
  · intro front first step index found
    exact ⟨_, List.getElem?_eq_getElem (found_lt found)⟩
  · intro key fault failed
    exact fault_of_handle inRange failed

theorem recalled_in_range :
    Leaves Shell.serve ∧ HistoryWalk.recalling.editor = {} ∧ HistoryWalk.recalling.session.pager = {} ∧
      ∃ shell, Typed Shell.serve (fun _ _ => True) HistoryWalk.recalling [] shell ∧
        shell.editor.position = some 0 ∧ InRange shell := by
  have typed := HistoryWalk.typed_recalled Shell.serve (fun _ _ => True) fun _ => trivial
  have ranges := typing_stays_in_range leaves_serve rfl rfl typed
  exact ⟨leaves_serve, rfl, rfl, _, typed, rfl, ranges.1⟩

end Runs

end CommandShell.Proofs.EditorRanges
