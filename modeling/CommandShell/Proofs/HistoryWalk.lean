import CommandShell.Proofs.TypedKeys

/-! The walk through the history. While it is on, the line shows the entry that the walk has come to,
or the text that it started from; whatever else changes the line ends the walk. This can fail where a
completion is taken in the middle of the walk, or where the entries move but the line stays. -/

namespace CommandShell.Proofs.HistoryWalk
open ActSteps HistoryFile KeyTurns KeyRuns Shell TypedKeys

/-- All entries are where they were, and at most one for a line stands behind them. -/
def Extended (line : Text) (before after : History) : Prop :=
  after.entries = before.entries ∨ ∃ time, after.entries = before.entries ++ [⟨line, time⟩]

/-- A key that enters the line in the middle of a walk takes no candidate of an open pager, and where it
fails it leaves the entries where they were and adds none for another line. -/
def Keeps (key : Key) (shell : Shell) : Prop :=
  key = .char '\r' ∨ key = .char '\n' → shell.editor.position ≠ none →
    shell.session.pager.active = false ∧ ∀ fault, ((press key).on shell).1 = .error fault →
      Extended shell.buffer.text shell.session.history ((press key).on shell).2.session.history

/-- The walk is behind the newest entry with the text that it started from, or at an entry that starts
with that text, and the line shows it. -/
def Shows (editor : Editor) (history : History) : Prop :=
  ∀ place, editor.position = some place →
    place = history.entries.length ∧ editor.buffer.text = editor.front ∨
      ∃ entry, history.entries[place]? = some entry ∧ editor.front <+: entry.command ∧
        editor.buffer.text = entry.command

theorem shows_of_none {editor : Editor} (history : History) (ended : editor.position = none) :
    Shows editor history := by
  intro place walking
  rw [ended] at walking
  cases walking

theorem shows_stay (editor : Editor) (history : History) : Shows editor.stay history :=
  shows_of_none history rfl

theorem seek_some {history : History} {front : Text} {step : Int} {tries : Nat} {start : Int}
    {index : Nat} (found : history.seek front step tries start = some index) :
    ∃ entry, history.entries[index]? = some entry ∧ front <+: entry.command := by
  induction tries generalizing start with
  | zero => cases found
  | succ tries ih =>
    rw [History.seek] at found
    split at found
    · cases found
    · split at found
      · cases found
      next entry present =>
        split at found
        next starts =>
          obtain rfl := Option.some.inj found
          exact ⟨entry, present, List.isPrefixOf_iff_prefix.mp starts⟩
        next => exact ih found

private theorem shows_showEntry {editor : Editor} {history : History} {start step : Int} {index : Nat}
    (found : history.find? editor.front start step = some index) :
    Shows (editor.showEntry history index) history := by
  obtain ⟨entry, present, starts⟩ := seek_some found
  unfold Editor.showEntry
  rw [present]
  intro place walking
  obtain rfl := Option.some.inj walking
  exact .inr ⟨entry, present, starts, rfl⟩

private theorem shows_beginWalk {editor : Editor} {history : History} (shows : Shows editor history) :
    Shows (editor.beginWalk history) history := by
  unfold Editor.beginWalk
  split
  · exact shows
  · intro place walking
    exact .inl ⟨(Option.some.inj walking).symm, rfl⟩

private theorem shows_older {editor : Editor} {history : History} (shows : Shows editor history) :
    Shows (editor.older history) history := by
  unfold Editor.older
  dsimp only
  split
  next index found => exact shows_showEntry found
  next => exact shows_beginWalk shows

private theorem shows_newer {editor : Editor} {history : History} (shows : Shows editor history) :
    Shows (editor.newer history) history := by
  unfold Editor.newer
  split
  · exact shows
  · split
    next index found => exact shows_showEntry found
    next => exact shows_stay _ history

private theorem shows_move {editor : Editor} {history : History} {change : LineBuffer → LineBuffer}
    (text : ∀ buffer, (change buffer).text = buffer.text) (shows : Shows editor history) :
    Shows (editor.move change) history := by
  intro place walking
  have held := shows place walking
  rwa [← text editor.buffer] at held

private theorem shows_extended {editor : Editor} {before after : History}
    (extended : Extended editor.buffer.text before after) (shows : Shows editor before) :
    Shows editor after := by
  intro place walking
  have shown := shows place walking
  obtain same | ⟨time, longer⟩ := extended
  · rwa [same]
  rw [longer]
  obtain ⟨rfl, text⟩ | ⟨entry, present, starts, text⟩ := shown
  · exact .inr ⟨⟨editor.buffer.text, time⟩, List.getElem?_concat_length, text ▸ List.prefix_rfl, rfl⟩
  · obtain ⟨there, -⟩ := List.getElem?_eq_some_iff.mp present
    exact .inr ⟨entry, (List.getElem?_append_left there).trans present, starts, text⟩

private theorem active_of_candidate {pager : Pager} {candidate : Candidate}
    (chosen : pager.current? = some candidate) : pager.active = true := by
  unfold Pager.active
  cases candidates : pager.candidates with
  | nil =>
    rw [Pager.current?, candidates] at chosen
    cases chosen
  | cons first rest => rfl

theorem Keeps.unchosen {key : Key} {shell : Shell} (permitted : Keeps key shell)
    (enters : key = .char '\r' ∨ key = .char '\n') {candidate : Candidate}
    (chosen : shell.session.pager.current? = some candidate) : shell.editor.position = none := by
  refine Classical.byContradiction fun walking => ?_
  exact Bool.false_ne_true ((permitted enters walking).1.symm.trans (active_of_candidate chosen))

private theorem shows_of_press {key : Key} {before : Shell} (permitted : Keeps key before)
    (shows : Shows before.editor before.session.history) :
    Shows ((press key).on before).2.editor ((press key).on before).2.session.history := by
  cases press_turn key before with
  | idle editor pager history =>
    rw [editor, history]
    exact shows
  | moved inside text editor closes history =>
    rw [editor, history]
    exact shows_move text shows
  | edited inside editor closed history =>
    rw [editor]
    exact shows_stay _ _
  | opened editor read fills history =>
    rw [editor, history]
    exact shows
  | refilled inside editor read fills history =>
    rw [editor]
    exact shows_stay _ _
  | outdated inside cause active editor pager history =>
    rw [editor]
    exact shows_stay _ _
  | selected editor selects history =>
    rw [editor, history]
    exact shows
  | walked walks editor closed pager history =>
    rw [history]
    obtain editor | editor := editor
    · rw [editor]
      exact shows_older shows
    · rw [editor]
      exact shows_newer shows
  | accepted enters chosen editor closes history =>
    -- The line is another one now, so this keeps the property only outside a walk.
    rw [editor]
    exact shows_of_none _ (permitted.unchosen enters chosen)
  | submitted enters unchosen editor pager asks =>
    rw [editor]
    exact shows_stay _ _
  | stuck enters failed editor pager history =>
    -- The entries move under the walk, so this keeps the property only outside one, too.
    rw [editor]
    obtain ⟨fault, failed⟩ := failed
    by_cases walking : before.editor.position = none
    · exact shows_of_none _ walking
    · exact shows_extended ((permitted enters walking).2 fault failed) shows

/-- A key that changes the line ends the walk, unless it walks. -/
theorem ended_of_turn {key : Key} {before after : Shell} {result : Except Fault (Option Request)}
    (turn : Turn key before result after) (permitted : Keeps key before) (notUp : key ≠ .up)
    (notDown : key ≠ .down) (changed : after.editor.buffer.text ≠ before.editor.buffer.text) :
    after.editor.position = none := by
  cases turn with
  | idle editor pager history => exact absurd (by rw [editor]) changed
  | moved inside text editor closes history =>
    refine absurd ?_ changed
    rw [editor]
    exact text _
  | edited inside editor closed history => rw [editor]; rfl
  | opened editor read fills history => exact absurd (by rw [editor]) changed
  | refilled inside editor read fills history => rw [editor]; rfl
  | outdated inside cause active editor pager history => rw [editor]; rfl
  | selected editor selects history => exact absurd (by rw [editor]) changed
  | walked walks editor closed pager history =>
    obtain up | down := walks
    · exact absurd up notUp
    · exact absurd down notDown
  | accepted enters chosen editor closes history =>
    rw [editor]
    exact permitted.unchosen enters chosen
  | submitted enters unchosen editor pager asks => rw [editor]; rfl
  | stuck enters failed editor pager history => exact absurd (by rw [editor]) changed

section Runs

variable {serve : Request → Act Shell Unit} (leaves : Leaves serve)

include leaves

private theorem shows_of_handle {key : Key} {shell : Shell} (permitted : Keeps key shell)
    (shows : Shows shell.editor shell.session.history) :
    Shows ((handle serve key).on shell).2.editor ((handle serve key).on shell).2.session.history := by
  obtain ⟨editor, -, history⟩ := handle_leaves leaves key shell
  rw [editor, history]
  exact shows_of_press permitted shows

private theorem shows_of_typed {start : Shell} (fresh : Fresh start) {pending : List Key} {shell : Shell}
    (typed : Typed serve Keeps start pending shell) :
    Shows shell.editor shell.session.history := by
  induction typed with
  | start =>
    rw [fresh.editor]
    exact shows_of_none _ rfl
  | char _ _ ih => exact ih
  | handled _ permitted _ ih => exact shows_of_handle leaves permitted ih
  | failed _ permitted _ ih => exact shows_of_handle leaves permitted ih

/-- During the walk the line shows the entry that the walk has come to, or the text that it started
from, and a key that changes the line in any other way ends the walk. -/
theorem walk_shows_entries {start : Shell} (fresh : Fresh start) {pending : List Key} {shell : Shell}
    (typed : Typed serve Keeps start pending shell) :
    Shows shell.editor shell.session.history ∧
    ∀ key, Keeps key shell → key ≠ .up → key ≠ .down →
      ((handle serve key).on shell).2.buffer.text ≠ shell.buffer.text →
        ((handle serve key).on shell).2.editor.position = none :=
  ⟨shows_of_typed leaves fresh typed, fun key permitted notUp notDown changed =>
    ended_of_turn (handle_turn leaves key shell) permitted notUp notDown changed⟩

end Runs

def recalling : Shell :=
  { bareShell with session := { bareShell.session with
    history := { bareShell.session.history with entries := [⟨['c'], 0⟩] } } }

private theorem recalling_fresh : Fresh recalling := ⟨rfl, rfl⟩

private theorem on_handle_up (serve : Request → Act Shell Unit) {shell : Shell}
    (closed : shell.session.pager.active = false) :
    (handle serve .up).on shell =
      (.ok ⟨⟩, { shell with editor := shell.editor.older shell.session.history }) := by
  have inactive : ¬ shell.session.pager.active = true := Bool.eq_false_iff.mp closed
  rw [handle, on_bind, press]
  simp only [on_bind, on_get, if_neg inactive]
  rfl

theorem typed_up {serve : Request → Act Shell Unit} {allowed : Key → Shell → Prop} {start shell : Shell}
    (typed : Typed serve allowed start [] shell) (ready : shell.editor.decoder = {})
    (closed : shell.session.pager.active = false) (permitted : allowed .up shell) :
    Typed serve allowed start [] { shell with editor := shell.editor.older shell.session.history } := by
  have read : Typed serve allowed start [.up] shell := by
    obtain ⟨world, settings, session, screen, ⟨buffer, decoder, position, front⟩, flags, highlighter, mode,
      modeChanges⟩ := shell
    cases ready
    exact ((typed.char Key.escapeChar).char '[').char 'A'
  have handled := on_handle_up serve closed
  have walked := read.handled permitted (congrArg Prod.fst handled)
  rwa [handled] at walked

section Recalling

variable (serve : Request → Act Shell Unit) (allowed : Key → Shell → Prop)
  (permitted : ∀ shell, allowed .up shell)

def recalled : Shell := { recalling with editor := ⟨⟨['c'], 1⟩, {}, some 0, []⟩ }

include permitted

theorem typed_recalled : Typed serve allowed recalling [] recalled := typed_up .start rfl rfl (permitted _)

/-- A history that is full. The folder of its file cannot be named. -/
def crowded : Shell :=
  { bareShell with session := { bareShell.session with
    history := ⟨some ⟨"/", ["\x00", "h"]⟩, 2, by decide, [⟨['a'], 0⟩, ⟨['b'], 0⟩]⟩ } }

def walked : Shell := { crowded with editor := ⟨⟨['a'], 1⟩, {}, some 0, []⟩ }

private theorem typed_crowded : Typed serve allowed crowded [] walked :=
  typed_up (typed_up .start rfl rfl (permitted _)) rfl rfl (permitted _)

end Recalling

private theorem walks_permitted (shell : Shell) : Keeps .up shell := by
  rintro (enters | enters)
  · cases enters
  · cases enters

theorem recalled_entry_shows :
    Leaves Shell.serve ∧ Fresh recalling ∧
    ∃ shell, Typed Shell.serve Keeps recalling [] shell ∧ shell.editor.position = some 0 ∧
      Keeps (.char 'd') shell ∧
      ((handle Shell.serve (.char 'd')).on shell).2.buffer.text ≠ shell.buffer.text ∧
      Shows shell.editor shell.session.history ∧
      ((handle Shell.serve (.char 'd')).on shell).2.editor.position = none := by
  have typed := typed_recalled Shell.serve Keeps walks_permitted
  have permitted : Keeps (.char 'd') recalled := by
    rintro (enters | enters)
    · cases enters
    · cases enters
  obtain ⟨shows, ends⟩ := walk_shows_entries leaves_serve recalling_fresh typed
  exact ⟨leaves_serve, recalling_fresh, _, typed, rfl, permitted, by decide, shows,
    ends _ permitted (by decide) (by decide) (by decide)⟩

/-- A completion that is taken during the walk changes the line, but the walk stays at its entry. -/
theorem taken_completion_unshown :
    ∃ shell, Typed Shell.serve (fun _ _ => True) recalling [] shell ∧
      shell.editor.position = some 0 ∧ shell.buffer.text = "cd" ∧
      ¬ Shows shell.editor shell.session.history := by
  have typed := typed_recalled Shell.serve (fun _ _ => True) fun _ => trivial
  obtain ⟨shell, opened, editor, session⟩ := typed_tab typed trivial rfl rfl rfl rfl rfl
  have entered := opened.char '\r'
  have enter : (shell.editor.decoder.feed '\r').2 = [.char '\r'] := by
    rw [editor]
    rfl
  rw [enter] at entered
  have chosen : (decoded shell '\r').session.pager.current? =
      some ⟨"cd", "cd", some "Builtin"⟩ := by
    rw [decoded, session]
    rfl
  have handled := handle_enter Shell.serve (.inl rfl) chosen
  have taken := entered.handled trivial (congrArg Prod.fst handled)
  rw [handled] at taken
  have line : (decoded shell '\r').editor.buffer = ⟨['c'], 1⟩ := by
    rw [decoded, editor]
    rfl
  have filter : (decoded shell '\r').session.pager.filter = ['c'] := by
    rw [decoded, session]
    rfl
  have text : ((decoded shell '\r').editor.buffer.replaceBefore
      (decoded shell '\r').session.pager.filter.length "cd").text = "cd" := by
    rw [line, filter]
    rfl
  have place : shell.editor.position = some 0 := by
    rw [editor]
    rfl
  have entries : shell.session.history.entries = [⟨['c'], 0⟩] := by
    rw [session]
    rfl
  refine ⟨_, taken, place, text, fun shows => ?_⟩
  obtain ⟨newest, -⟩ | ⟨entry, present, -, same⟩ := shows 0 place
  · change 0 = shell.session.history.entries.length at newest
    rw [entries] at newest
    cases newest
  · change shell.session.history.entries[0]? = some entry at present
    rw [entries] at present
    obtain rfl := Option.some.inj present
    cases text.symm.trans same

/-- A line that is added to a full history without being entered puts the entries under other indices. -/
theorem stuck_line_unshown :
    ∃ shell, Typed Shell.serve (fun _ _ => True) crowded [] shell ∧
      shell.editor.position = some 0 ∧ shell.buffer.text = "a" ∧
      ¬ Shows shell.editor shell.session.history := by
  have entered := (typed_crowded Shell.serve (fun _ _ => True) fun _ => trivial).char '\r'
  have accepted : crowded.session.history.accepts "a" = true := rfl
  have unnamed : (crowded.session.history.writeRecord ⟨"a", 0⟩).on {} = (.error .nullInPath, {}) := rfl
  have awaiting : Awaiting crowded.session.history {} "a" walked := ⟨rfl, rfl, rfl, rfl, rfl⟩
  have handled := on_handle_enter Shell.serve awaiting rfl (run_add_accepted accepted none unnamed)
  have failed := Typed.failed entered trivial (congrArg Prod.fst handled)
  rw [show decoded _ '\r' = walked from rfl, handled] at failed
  refine ⟨_, failed, rfl, rfl, fun shows => ?_⟩
  obtain ⟨newest, -⟩ | ⟨entry, present, -, same⟩ := shows 0 rfl
  · cases newest
  · cases present
    cases same

/-- Both conditions on the keys are needed. -/
theorem walk_left_unshown :
    (∃ shell, Typed Shell.serve (fun _ _ => True) recalling [] shell ∧
      shell.editor.position = some 0 ∧ shell.buffer.text = "cd" ∧
      ¬ Shows shell.editor shell.session.history) ∧
    ∃ shell, Typed Shell.serve (fun _ _ => True) crowded [] shell ∧
      shell.editor.position = some 0 ∧ shell.buffer.text = "a" ∧
      ¬ Shows shell.editor shell.session.history :=
  ⟨taken_completion_unshown, stuck_line_unshown⟩

end CommandShell.Proofs.HistoryWalk
