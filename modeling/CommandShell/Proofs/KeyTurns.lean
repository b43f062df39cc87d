import CommandShell.Keyboard
import CommandShell.Proofs.HistoryFile

/-! What a pressed key does to the line, to the walk through the history and to the pager. Each key
does one of a few things, whatever the files, the environment and the abbreviations are. -/

namespace CommandShell.Proofs.KeyTurns
open ActSteps HistoryFile Shell

def Inside (buffer : LineBuffer) : Prop := buffer.cursor ≤ buffer.text.length

def KeepsInside (change : LineBuffer → LineBuffer) : Prop :=
  ∀ buffer, Inside buffer → Inside (change buffer)

theorem inside_ofText (text : Text) : Inside (.ofText text) := Nat.le_refl _

theorem inside_place (text : Text) (cursor : Int) : Inside (.place text cursor) :=
  Nat.min_le_right _ _

theorem keepsInside_insert (chars : Text) : KeepsInside (·.insert chars) := by
  intro buffer inside
  simp only [Inside, LineBuffer.insert, LineBuffer.before, LineBuffer.after, List.length_append,
    List.length_take, List.length_drop] at inside ⊢
  omega

theorem keepsInside_deleteBack : KeepsInside .deleteBack := by
  intro buffer inside
  unfold LineBuffer.deleteBack
  split
  · simp only [Inside, LineBuffer.after, List.length_append, List.length_take, List.length_drop]
      at inside ⊢
    omega
  · exact inside

theorem keepsInside_deleteForward : KeepsInside .deleteForward := by
  intro buffer inside
  unfold LineBuffer.deleteForward
  split
  · simp only [Inside, LineBuffer.before, List.length_append, List.length_take, List.length_drop]
      at inside ⊢
    omega
  · exact inside

theorem keepsInside_replaceBefore (length : Nat) (replacement : Text) :
    KeepsInside (·.replaceBefore length replacement) := by
  intro buffer inside
  simp only [Inside, LineBuffer.replaceBefore, LineBuffer.after, List.length_append,
    List.length_take, List.length_drop] at inside ⊢
  omega

theorem keepsInside_killWord : KeepsInside .killWord := by
  intro buffer inside
  simp only [Inside, LineBuffer.killWord, List.length_append]
  omega

theorem keepsInside_killToEnd : KeepsInside .killToEnd := by
  intro buffer inside
  simp only [Inside, LineBuffer.killToEnd, LineBuffer.before, List.length_take] at inside ⊢
  omega

theorem keepsInside_moveLeft : KeepsInside .moveLeft := by
  intro buffer inside
  simp only [Inside, LineBuffer.moveLeft] at inside ⊢
  omega

theorem keepsInside_moveRight : KeepsInside .moveRight :=
  fun _ _ => Nat.min_le_left _ _

theorem keepsInside_moveHome : KeepsInside .moveHome := fun _ _ => Nat.zero_le _

theorem keepsInside_moveEnd : KeepsInside .moveEnd := fun _ _ => Nat.le_refl _

theorem keepsInside_killLine : KeepsInside .killLine := fun _ _ => Nat.le_refl _

private theorem keepsInside_id : KeepsInside id := fun _ inside => inside

private theorem inside_showEntry {editor : Editor} (history : History) (index : Nat)
    (inside : Inside editor.buffer) : Inside (editor.showEntry history index).buffer := by
  unfold Editor.showEntry
  split
  next entry _ => exact inside_ofText entry.command
  next => exact inside

private theorem inside_beginWalk {editor : Editor} (history : History) (inside : Inside editor.buffer) :
    Inside (editor.beginWalk history).buffer := by
  unfold Editor.beginWalk
  split
  · exact inside
  · exact inside

theorem inside_older {editor : Editor} (history : History) (inside : Inside editor.buffer) :
    Inside (editor.older history).buffer := by
  have begun := inside_beginWalk history inside
  unfold Editor.older
  dsimp only
  split
  · exact inside_showEntry history _ begun
  · exact begun

theorem inside_newer {editor : Editor} (history : History) (inside : Inside editor.buffer) :
    Inside (editor.newer history).buffer := by
  unfold Editor.newer
  split
  · exact inside
  · split
    · exact inside_showEntry history _ inside
    · exact inside_ofText editor.front

/-- What a pressed key can do. The result is what it asks for, or a fault. -/
inductive Turn (key : Key) (before : Shell) (result : Except Fault (Option Request))
    (after : Shell) : Prop where
  /-- Nothing of the line, the walk and the pager changes. -/
  | idle (editor : after.editor = before.editor)
      (pager : after.session.pager = before.session.pager)
      (history : after.session.history = before.session.history)
  /-- The cursor moves, and the pager closes. -/
  | moved {change : LineBuffer → LineBuffer} (inside : KeepsInside change)
      (text : ∀ buffer, (change buffer).text = buffer.text)
      (editor : after.editor = before.editor.move change) (pager : after.session.pager = {})
      (history : after.session.history = before.session.history)
  /-- The line changes, the walk ends, and the pager is closed. -/
  | edited {change : LineBuffer → LineBuffer} (inside : KeepsInside change)
      (editor : after.editor = before.editor.edit change)
      (pager : after.session.pager.active = false)
      (history : after.session.history = before.session.history)
  /-- The pager opens for the word at the cursor. -/
  | opened {candidates : List Candidate} {word : Text} (editor : after.editor = before.editor)
      (read : cursorWord after.editor.buffer.text after.editor.buffer.cursor = .ok word)
      (pager : after.session.pager = .ofCandidates candidates word)
      (history : after.session.history = before.session.history)
  /-- The line changes, the walk ends, and the pager is filled for the new word at the cursor. -/
  | refilled {change : LineBuffer → LineBuffer} {candidates : List Candidate} {word : Text}
      (inside : KeepsInside change) (editor : after.editor = before.editor.edit change)
      (read : cursorWord after.editor.buffer.text after.editor.buffer.cursor = .ok word)
      (pager : after.session.pager = .ofCandidates candidates word)
      (history : after.session.history = before.session.history)
  /-- The line changes and the walk ends, but an open pager stays as it was. -/
  | outdated {change : LineBuffer → LineBuffer} (inside : KeepsInside change)
      (cause : key = .altEnter ∨ ∃ fault, result = .error fault)
      (active : before.session.pager.active = true)
      (editor : after.editor = before.editor.edit change)
      (pager : after.session.pager = before.session.pager)
      (history : after.session.history = before.session.history)
  /-- Another candidate is selected. -/
  | selected (editor : after.editor = before.editor)
      (pager : after.session.pager = before.session.pager.next ∨
        after.session.pager = before.session.pager.previous)
      (history : after.session.history = before.session.history)
  /-- The walk through the history goes on or begins. -/
  | walked (walks : key = .up ∨ key = .down)
      (editor : after.editor = before.editor.older before.session.history ∨
        after.editor = before.editor.newer before.session.history)
      (active : before.session.pager.active = false)
      (pager : after.session.pager = before.session.pager)
      (history : after.session.history = before.session.history)
  /-- The selected candidate takes the place of the filter, and the pager closes. The walk goes on.
  -/
  | accepted {candidate : Candidate} (enters : key = .char '\r' ∨ key = .char '\n')
      (chosen : before.session.pager.current? = some candidate)
      (editor : after.editor = before.editor.move
        (·.replaceBefore before.session.pager.filter.length candidate.value))
      (pager : after.session.pager = {})
      (history : after.session.history = before.session.history)
  /-- The line is entered. -/
  | submitted {line : Text} (enters : key = .char '\r' ∨ key = .char '\n')
      (unchosen : before.session.pager.current? = none)
      (editor : after.editor = before.editor.edit fun _ => {})
      (pager : after.session.pager = before.session.pager)
      (asks : result = .ok (some (.submit line)))
  /-- The line gets an entry in the history, but a fault keeps it from being entered. -/
  | stuck {entry : Entry} (enters : key = .char '\r' ∨ key = .char '\n')
      (failed : ∃ fault, result = .error fault) (editor : after.editor = before.editor)
      (pager : after.session.pager = before.session.pager)
      (history : after.session.history = before.session.history.push entry)

section Acts

variable (shell : Shell)

theorem on_edit (change : LineBuffer → LineBuffer) :
    (edit change).on shell = (.ok ⟨⟩, { shell with editor := shell.editor.edit change }) := rfl

private theorem on_acceptOrMove :
    acceptOrMove.on shell = (.ok ⟨⟩, { shell with
      session := { shell.session with pager := {} }
      editor := shell.editor.acceptOrMove shell.session.history }) := rfl

end Acts

private theorem candidates_word (cache : FlagCache) (line : Text) (cursor : Int) (current : Text)
    (environment : Environment) :
    Yields (Completion.candidates cache line cursor current environment)
      fun found => cursorWord line cursor = .ok found.2.1 := by
  refine .bind (.result _) fun word read => ?_
  dsimp only
  split
  · exact .bind (.anything _) fun found _ => .value read
  · split
    · refine .bind (.anything _) fun world _ => .bind (.anything _) fun commands _ => ?_
      exact .bind (.anything _) fun found _ => .value read
    · split
      · split
        · exact .fault _
        · refine .bind (.anything _) fun flags _ => ?_
          exact .bind (.anything _) fun found _ => .value read
      · exact .bind (.anything _) fun found _ => .value read

private theorem complete_word (cache : FlagCache) (line : Text) (cursor : Int) (current : Text)
    (environment : Environment) :
    Yields (Completion.complete cache line cursor current environment) fun found =>
      ∃ candidates word, cursorWord line cursor = .ok word ∧
        found.2 = .ofCandidates candidates word := by
  refine .bind (candidates_word _ _ _ _ _) fun found read => ?_
  obtain ⟨cache, word, candidates⟩ := found
  exact .bind (.anything _) fun _ _ => .value ⟨candidates, word, read, rfl⟩

theorem on_complete (shell : Shell) :
    let ran := complete.on shell
    ran.2.editor = shell.editor ∧ ran.2.session.history = shell.session.history ∧
      ((∃ fault, ran.1 = .error fault) ∧ ran.2.session.pager = shell.session.pager ∨
        ran.1 = .ok ⟨⟩ ∧ ∃ candidates word,
          cursorWord shell.editor.buffer.text shell.editor.buffer.cursor = .ok word ∧
            ran.2.session.pager = .ofCandidates candidates word) := by
  have found := complete_word shell.flags shell.buffer.text shell.buffer.cursor
    shell.session.current shell.session.environment shell.world
  simp only [complete, on_bind, on_get, inWorld, on_part]
  generalize (Completion.complete shell.flags shell.buffer.text shell.buffer.cursor
    shell.session.current shell.session.environment).on shell.world = ran at found ⊢
  obtain ⟨result, world⟩ := ran
  cases result with
  | error fault => exact ⟨rfl, rfl, .inl ⟨⟨fault, rfl⟩, rfl⟩⟩
  | ok given => exact ⟨rfl, rfl, .inr ⟨rfl, found given rfl⟩⟩

variable {key : Key} {shell : Shell}

theorem done_turn {act : Act Shell Unit}
    (turn : Turn key shell ((act.on shell).1.map fun _ => none) (act.on shell).2) :
    let ran := (do act; return none : Act Shell (Option Request)).on shell
    Turn key shell ran.1 ran.2 := by
  simp only [on_bind]
  generalize act.on shell = ran at turn ⊢
  obtain ⟨result, after⟩ := ran
  cases result with
  | error fault => exact turn
  | ok => exact turn

/-- An edit and then a new completion if the pager is open: what typing and deleting do. -/
theorem refill_turn {change : LineBuffer → LineBuffer} (inside : KeepsInside change) :
    let ran := (do edit change; refreshPager).on shell
    Turn key shell (ran.1.map fun _ => none) ran.2 := by
  simp only [refreshPager, on_bind, on_edit, on_get]
  by_cases active : shell.session.pager.active = true
  · rw [if_pos active]
    have completed := on_complete { shell with editor := shell.editor.edit change }
    generalize complete.on { shell with editor := shell.editor.edit change } = ran at completed ⊢
    obtain ⟨result, after⟩ := ran
    obtain ⟨editor, history, ⟨⟨fault, rfl⟩, pager⟩ | ⟨rfl, candidates, word, read, pager⟩⟩ := completed
    · exact .outdated inside (.inr ⟨fault, rfl⟩) active editor pager history
    · exact .refilled inside editor (by rwa [editor]) pager history
  · rw [if_neg active]
    exact .edited inside rfl (Bool.eq_false_iff.mpr active) rfl

private theorem accept_turn {result : Except Fault (Option Request)} :
    Turn key shell result (acceptOrMove.on shell).2 := by
  rw [on_acceptOrMove, Editor.acceptOrMove]
  split
  · split
    next suggestion _ _ =>
      have inside : KeepsInside fun _ => .ofText suggestion := fun _ _ => inside_ofText suggestion
      exact .edited inside rfl rfl rfl
    next => exact .moved keepsInside_moveRight (fun _ => rfl) rfl rfl rfl
  · exact .moved keepsInside_moveRight (fun _ => rfl) rfl rfl rfl

private theorem tab_turn {result : Except Fault (Option Request)} :
    let act : Act Shell Unit := do
      if (← get).session.pager.active then changePager .next else complete
    Turn key shell result (act.on shell).2 := by
  simp only [on_bind, on_get]
  by_cases active : shell.session.pager.active = true
  · rw [if_pos active]
    exact .selected rfl (.inl rfl) rfl
  · rw [if_neg active]
    obtain ⟨editor, history, ⟨-, pager⟩ | ⟨-, candidates, word, read, pager⟩⟩ := on_complete shell
    · exact .idle editor pager history
    · exact .opened editor (by rwa [editor]) pager history

private theorem space_turn {result : Except Fault (Option Request)} :
    let act : Act Shell Unit := do
      expandAbbreviation
      edit (·.insert [' '])
      closePager
    Turn key shell result (act.on shell).2 := by
  simp only [expandAbbreviation, on_bind, on_get, on_ofExcept]
  cases shell.session.abbreviations.expandAt shell.buffer.text shell.buffer.cursor with
  | error fault => exact .idle rfl rfl rfl
  | ok expanded =>
    obtain ⟨text, cursor⟩ := expanded
    have inside : KeepsInside fun _ => (LineBuffer.place text cursor).insert [' '] :=
      fun _ _ => keepsInside_insert [' '] _ (inside_place text cursor)
    exact .edited inside rfl rfl rfl

private theorem end_turn {result : Except Fault (Option Request)} :
    Turn key shell result (endOrDelete.on shell).2 := by
  simp only [endOrDelete, on_bind, on_get]
  by_cases active : shell.session.pager.active = true
  · rw [if_pos active]
    exact .moved keepsInside_id (fun _ => rfl) rfl rfl rfl
  · rw [if_neg active]
    split
    · exact .idle rfl rfl rfl
    · exact .edited keepsInside_deleteForward rfl (Bool.eq_false_iff.mpr active) rfl

private theorem on_enteredLine (shell : Shell) (line : Text) :
    let ran := (enteredLine line).on shell
    ran.2.editor = shell.editor ∧ ran.2.session.pager = shell.session.pager ∧
      (ran.2.session.history = shell.session.history ∨
        ∃ entry, ran.2.session.history = shell.session.history.push entry) := by
  unfold enteredLine
  split
  · exact ⟨rfl, rfl, .inl rfl⟩
  · simp only [on_bind, on_get, on_ofExcept]
    cases shell.session.abbreviations.expandAt line line.length with
    | error fault => exact ⟨rfl, rfl, .inl rfl⟩
    | ok expanded =>
      simp only [inWorld, on_part, on_liftM, changeSession, on_modify, on_discard, on_ofExcept]
      obtain added | ⟨entry, result, world, added⟩ := add_cases shell.session.history expanded.1 none shell.world
      · rw [added]
        exact ⟨rfl, rfl, .inl rfl⟩
      · rw [added]
        cases result with
        | ok | error => exact ⟨rfl, rfl, .inr ⟨entry, rfl⟩⟩

private theorem enter_turn (enters : key = .char '\r' ∨ key = .char '\n') :
    Turn key shell (enter.on shell).1 (enter.on shell).2 := by
  simp only [enter, on_bind, on_get]
  cases chosen : shell.session.pager.current? with
  | some candidate => exact .accepted enters chosen rfl rfl rfl
  | none =>
    have entered := on_enteredLine shell shell.buffer.text
    simp only [on_bind]
    generalize (enteredLine shell.buffer.text).on shell = ran at entered ⊢
    obtain ⟨result, after⟩ := ran
    obtain ⟨editor, pager, history⟩ := entered
    cases result with
    | error fault =>
      obtain history | ⟨entry, history⟩ := history
      · exact .idle editor pager history
      · exact .stuck enters ⟨fault, rfl⟩ editor pager history
    | ok line =>
      refine .submitted enters chosen ?_ pager rfl
      change { after.editor with buffer := {} }.stay = _
      rw [editor]
      rfl

private theorem type_turn (c : Char) :
    Turn (.char c) shell ((typeChar c).on shell).1 ((typeChar c).on shell).2 := by
  unfold typeChar
  split
  · exact done_turn tab_turn
  · exact .moved keepsInside_moveHome (fun _ => rfl) rfl rfl rfl
  · exact .moved keepsInside_moveEnd (fun _ => rfl) rfl rfl rfl
  · exact .moved keepsInside_moveLeft (fun _ => rfl) rfl rfl rfl
  · exact done_turn accept_turn
  · exact .edited keepsInside_killWord rfl rfl rfl
  · exact .edited keepsInside_killLine rfl rfl rfl
  · exact .edited keepsInside_killToEnd rfl rfl rfl
  · exact .idle rfl rfl rfl
  · have inside : KeepsInside fun _ => {} := fun _ _ => Nat.le_refl _
    exact .edited inside rfl rfl rfl
  · exact done_turn end_turn
  · exact done_turn (refill_turn keepsInside_deleteBack)
  · exact done_turn (refill_turn keepsInside_deleteBack)
  · exact done_turn space_turn
  · exact enter_turn (.inl rfl)
  · exact enter_turn (.inr rfl)
  · split
    · exact done_turn (refill_turn (keepsInside_insert _))
    · exact .idle rfl rfl rfl

theorem press_turn (key : Key) (shell : Shell) :
    Turn key shell ((press key).on shell).1 ((press key).on shell).2 := by
  cases key with
  | char c => exact type_turn c
  | altEnter =>
    by_cases active : shell.session.pager.active = true
    · exact .outdated (keepsInside_insert ['\n']) (.inl rfl) active rfl rfl rfl
    · exact .edited (keepsInside_insert ['\n']) rfl (Bool.eq_false_iff.mpr active) rfl
  | up =>
    simp only [press, on_bind, on_get]
    by_cases active : shell.session.pager.active = true
    · rw [if_pos active]
      exact .selected rfl (.inr rfl) rfl
    · rw [if_neg active]
      exact .walked (.inl rfl) (.inl rfl) (Bool.eq_false_iff.mpr active) rfl rfl
  | down =>
    simp only [press, on_bind, on_get]
    by_cases active : shell.session.pager.active = true
    · rw [if_pos active]
      exact .selected rfl (.inl rfl) rfl
    · rw [if_neg active]
      exact .walked (.inr rfl) (.inr rfl) (Bool.eq_false_iff.mpr active) rfl rfl
  | right => exact done_turn accept_turn
  | left => exact .moved keepsInside_moveLeft (fun _ => rfl) rfl rfl rfl
  | shiftTab => exact .selected rfl (.inr rfl) rfl
  | delete => exact .edited keepsInside_deleteForward rfl rfl rfl
  | cancel => exact .moved keepsInside_id (fun _ => rfl) rfl rfl rfl

end CommandShell.Proofs.KeyTurns
