import CommandShell.Loop
import CommandShell.Proofs.CandidateSources
import CommandShell.Proofs.KeyTurns
import CommandShell.Proofs.LineRuns

/-! The shells that typing leads to. A character completes presses, and the presses are handled one
after the other; a fault ends those that are still to come, but not the typing. -/

namespace CommandShell.Proofs.KeyRuns
open ActSteps CandidateSources KeyTurns Shell

def handle (serve : Request → Act Shell Unit) (key : Key) : Act Shell Unit := do
  match ← press key with
  | some request => serve request
  | none => pure ()

def decoded (shell : Shell) (c : Char) : Shell :=
  { shell with editor := { shell.editor with decoder := (shell.editor.decoder.feed c).1 } }

/-- The shells that typing leads to, with the presses that are still to be handled. Only some presses
are allowed. -/
inductive Typed (serve : Request → Act Shell Unit) (allowed : Key → Shell → Prop) (start : Shell) :
    List Key → Shell → Prop where
  | start : Typed serve allowed start [] start
  | char {shell} (typed : Typed serve allowed start [] shell) (c : Char) :
      Typed serve allowed start (shell.editor.decoder.feed c).2 (decoded shell c)
  | handled {key rest shell} (typed : Typed serve allowed start (key :: rest) shell)
      (permitted : allowed key shell) (done : ((handle serve key).on shell).1 = .ok ⟨⟩) :
      Typed serve allowed start rest ((handle serve key).on shell).2
  | failed {key rest shell fault} (typed : Typed serve allowed start (key :: rest) shell)
      (permitted : allowed key shell) (broke : ((handle serve key).on shell).1 = .error fault) :
      Typed serve allowed start [] ((handle serve key).on shell).2

structure Fresh (shell : Shell) : Prop where
  editor : shell.editor = {}
  closed : shell.session.pager.active = false

section Feed

variable {serve : Request → Act Shell Unit} {start : Shell}

theorem pressAll_cons (key : Key) (rest : List Key) :
    pressAll serve (key :: rest) = handle serve key >>= fun _ => pressAll serve rest := by
  unfold handle
  rw [bind_assoc]
  refine congrArg (press key >>= ·) (funext fun request => ?_)
  cases request with
  | none => exact (pure_bind _ _).symm
  | some request => rfl

theorem on_feed_cons (c : Char) (rest : Text) (shell : Shell) :
    (feed serve (c :: rest)).on shell =
      (do pressAll serve (shell.editor.decoder.feed c).2; feed serve rest).on (decoded shell c) := rfl

end Feed

/-- What a key asks for leaves the line, the pager and the history as they are. -/
structure Leaves (serve : Request → Act Shell Unit) : Prop where
  editor (request : Request) (shell : Shell) :
    ((serve request).on shell).2.editor = shell.editor
  pager (request : Request) (shell : Shell) :
    ((serve request).on shell).2.session.pager = shell.session.pager
  history (request : Request) (shell : Shell) :
    ((serve request).on shell).2.session.history = shell.session.history

/-- What a key did is still what it did once the shell has done what it asked for. -/
theorem Turn.served {key : Key} {before middle after : Shell} {result : Except Fault (Option Request)}
    (turn : Turn key before result middle) (editor : after.editor = middle.editor)
    (pager : after.session.pager = middle.session.pager)
    (history : after.session.history = middle.session.history) : Turn key before result after := by
  cases turn with
  | idle sameEditor samePager sameHistory =>
    exact .idle (editor.trans sameEditor) (pager.trans samePager) (history.trans sameHistory)
  | moved inside text moves closes sameHistory =>
    exact .moved inside text (editor.trans moves) (pager.trans closes) (history.trans sameHistory)
  | edited inside edits closed sameHistory =>
    exact .edited inside (editor.trans edits) (by rwa [pager]) (history.trans sameHistory)
  | opened sameEditor read fills sameHistory =>
    exact .opened (editor.trans sameEditor) (by rwa [editor]) (pager.trans fills)
      (history.trans sameHistory)
  | refilled inside edits read fills sameHistory =>
    exact .refilled inside (editor.trans edits) (by rwa [editor]) (pager.trans fills)
      (history.trans sameHistory)
  | outdated inside cause active edits samePager sameHistory =>
    exact .outdated inside cause active (editor.trans edits) (pager.trans samePager)
      (history.trans sameHistory)
  | selected sameEditor selects sameHistory =>
    exact .selected (editor.trans sameEditor) (by rwa [pager]) (history.trans sameHistory)
  | walked walks shows closed samePager sameHistory =>
    exact .walked walks (by rwa [editor]) closed (pager.trans samePager) (history.trans sameHistory)
  | accepted enters chosen replaces closes sameHistory =>
    exact .accepted enters chosen (editor.trans replaces) (pager.trans closes)
      (history.trans sameHistory)
  | submitted enters unchosen empties samePager asks =>
    exact .submitted enters unchosen (editor.trans empties) (pager.trans samePager) asks
  | stuck enters failed sameEditor samePager pushes =>
    exact .stuck enters failed (editor.trans sameEditor) (pager.trans samePager) (history.trans pushes)

/-- The line, the pager and the history are as the press left them. -/
theorem handle_leaves {serve : Request → Act Shell Unit} (leaves : Leaves serve) (key : Key)
    (shell : Shell) :
    let pressed := ((press key).on shell).2
    let after := ((handle serve key).on shell).2
    after.editor = pressed.editor ∧ after.session.pager = pressed.session.pager ∧
      after.session.history = pressed.session.history := by
  rw [handle, on_bind]
  generalize (press key).on shell = ran
  obtain ⟨result, middle⟩ := ran
  match result with
  | .error fault => exact ⟨rfl, rfl, rfl⟩
  | .ok none => exact ⟨rfl, rfl, rfl⟩
  | .ok (some request) =>
    exact ⟨leaves.editor request middle, leaves.pager request middle, leaves.history request middle⟩

theorem handle_turn {serve : Request → Act Shell Unit} (leaves : Leaves serve) (key : Key)
    (shell : Shell) :
    Turn key shell ((press key).on shell).1 ((handle serve key).on shell).2 := by
  obtain ⟨editor, pager, history⟩ := handle_leaves leaves key shell
  exact Turn.served (press_turn key shell) editor pager history

theorem handle_enter (serve : Request → Act Shell Unit) {key : Key}
    (enters : key = .char '\r' ∨ key = .char '\n') {shell : Shell} {candidate : Candidate}
    (chosen : shell.session.pager.current? = some candidate) :
    (handle serve key).on shell = (.ok ⟨⟩, { shell with
      editor := shell.editor.move
        (·.replaceBefore shell.session.pager.filter.length candidate.value)
      session := { shell.session with pager := {} } }) := by
  have pressed : press key = enter := by
    obtain rfl | rfl := enters
    · rfl
    · rfl
  rw [handle, pressed, on_bind, enter, on_bind, on_get]
  dsimp only
  rw [chosen]
  rfl

def editingFrame (editor : Editor) (pager : Pager) (history : History) : Frame where
  holds shell := shell.editor = editor ∧ shell.session.pager = pager ∧ shell.session.history = history
  inside _ := True
  world _ := trivial
  withWorld held _ := held
  withScreen held _ := held
  withJournal _ _ := trivial
  withClipboard _ _ := trivial
  withFiles _ _ := trivial
  withInput _ _ := trivial

def inMode (mode : TerminalMode) (shell : Shell) : Shell :=
  if shell.mode = mode then shell else { shell with mode, modeChanges := mode :: shell.modeChanges }

theorem inMode_eq (mode : TerminalMode) (shell : Shell) :
    ∃ changes, inMode mode shell = { shell with mode, modeChanges := changes } := by
  unfold inMode
  split
  next same => exact ⟨shell.modeChanges, by rw [← same]⟩
  next => exact ⟨_, rfl⟩

theorem on_setMode (mode : TerminalMode) (shell : Shell) :
    (setMode mode).on shell = (.ok ⟨⟩, inMode mode shell) := rfl

theorem on_cooked (act : Act Shell Unit) (shell : Shell) :
    (cooked act).on shell =
      ((act.on (inMode .cooked shell)).1, inMode shell.mode (act.on (inMode .cooked shell)).2) := by
  simp only [cooked, on_bind, on_get, on_setMode, on_attempt, on_ofExcept]

theorem display_keeps {frame : Frame} (notice : Notice) {shell : Shell} (held : frame.holds shell) :
    frame.holds ((display notice).on shell).2 :=
  frame.kept (frame.likeness.related_display notice) held

theorem editing_execute {editor : Editor} {pager : Pager} {history : History} (line : Text) {shell : Shell}
    (held : (editingFrame editor pager history).holds shell) :
    (editingFrame editor pager history).holds ((execute line).on shell).2 := by
  have serves (command : Command) : (editingFrame editor pager history).likeness.Serves command :=
    Frame.serves (fun _ _ held => held) (fun _ held => held) (Frame.starts fun _ _ _ _ _ => trivial) command
  exact LineRuns.execute_keeps serves (fun _ => Frame.allows fun held => held) line held

private theorem editing_submit (line : Text) (shell : Shell) :
    (editingFrame shell.editor shell.session.pager shell.session.history).holds
      ((submit line).on shell).2 := by
  let frame := editingFrame shell.editor shell.session.pager shell.session.history
  have shown : frame.holds ((display .finishLine).on shell).2 := display_keeps _ ⟨rfl, rfl, rfl⟩
  unfold submit
  rw [on_bind]
  generalize (display .finishLine).on shell = ran at shown ⊢
  obtain ⟨result, after⟩ := ran
  cases result with
  | error fault => exact shown
  | ok =>
    dsimp only
    split
    · exact shown
    · rw [on_cooked, on_discard]
      obtain ⟨changes, cooked⟩ := inMode_eq .cooked after
      have carried : frame.holds ((execute line).on (inMode .cooked after)).2 := by
        rw [cooked]
        exact editing_execute line shown
      generalize (execute line).on (inMode .cooked after) = ran at carried ⊢
      obtain ⟨changes, back⟩ := inMode_eq after.mode ran.2
      dsimp only
      rw [back]
      exact carried

theorem leaves_serve : Leaves Shell.serve := by
  have kept (request : Request) (shell : Shell) :
      (editingFrame shell.editor shell.session.pager shell.session.history).holds
        ((serve request).on shell).2 := by
    cases request with
    | submit line => exact editing_submit line shell
    | clearScreen => exact display_keeps _ ⟨rfl, rfl, rfl⟩
    | interrupt => exact display_keeps _ ⟨rfl, rfl, rfl⟩
  exact ⟨fun request shell => (kept request shell).1, fun request shell => (kept request shell).2.1,
    fun request shell => (kept request shell).2.2⟩

section Completing

private theorem candidates_root (cache : FlagCache) :
    (Completion.candidates cache ['c'] 1 "/" []).on {} =
      (.ok (cache, ['c'], [⟨"cd", "cd", some "Builtin"⟩]), {}) := by
  have word : cursorWord ['c'] 1 = .ok ['c'] := rfl
  have first : Completion.isCommandPosition ['c'] 1 ['c'] = true := rfl
  have commands : Completion.commands {} ['c'] [] = .ok [⟨"cd", "cd", some "Builtin"⟩] := rfl
  have entries : ({} : Files).entries [] = [] := List.mergeSort_nil
  have paths : Completion.paths {} ['c'] "/" none = .ok [] := paths_root rfl none entries
  have home : Table.get? ([] : Environment) "HOME" = none := rfl
  rw [Completion.candidates, on_bind, on_ofExcept, word]
  dsimp only
  rw [if_neg (by decide), if_pos first, on_bind, on_get]
  dsimp only
  rw [on_bind, on_ofExcept, commands]
  dsimp only
  rw [home, on_bind, on_bind, on_get]
  dsimp only
  rw [on_ofExcept, paths]
  rfl

variable {serve : Request → Act Shell Unit} {allowed : Key → Shell → Prop} {start shell : Shell}

theorem typed_tab (typed : Typed serve allowed start [] shell)
    (permitted : allowed (.char '\t') (decoded shell '\t')) {position : Option Nat} {front : Text}
    (editor : shell.editor = ⟨⟨['c'], 1⟩, {}, position, front⟩) (world : shell.world = {})
    (environment : shell.session.environment = []) (current : shell.session.current = "/")
    (closed : shell.session.pager = {}) :
    ∃ after, Typed serve allowed start [] after ∧ after.editor = shell.editor ∧
      after.session = { shell.session with
        pager := .ofCandidates [⟨"cd", "cd", some "Builtin"⟩] ['c'] } := by
  have same : decoded shell '\t' = shell := by
    unfold decoded
    rw [editor]
    exact congrArg (fun editor => { shell with editor }) editor.symm
  have keys : (shell.editor.decoder.feed '\t').2 = [.char '\t'] := by
    rw [editor]
    rfl
  have next := typed.char '\t'
  rw [same] at permitted next
  rw [keys] at next
  have completed : ∃ world, (Completion.complete shell.flags shell.buffer.text shell.buffer.cursor
      shell.session.current shell.session.environment).on shell.world =
        (.ok (shell.flags, .ofCandidates [⟨"cd", "cd", some "Builtin"⟩] ['c']), world) := by
    have found : (Completion.candidates shell.flags ['c'] (1 : Nat) "/" []).on {} = _ :=
      candidates_root shell.flags
    rw [buffer, editor, environment, current, world, Completion.complete, on_bind, found]
    exact ⟨_, rfl⟩
  obtain ⟨world, completed⟩ := completed
  have handled : (handle serve (.char '\t')).on shell = (.ok ⟨⟩, { shell with
      world, session := { shell.session with
        pager := .ofCandidates [⟨"cd", "cd", some "Builtin"⟩] ['c'] } }) := by
    have pressed : press (.char '\t') = (do
        if (← get).session.pager.active then changePager .next else complete : Act Shell Unit) >>=
          fun _ => pure none := rfl
    have inactive : ¬ shell.session.pager.active = true := by
      rw [closed]
      decide
    rw [handle, pressed]
    simp only [on_bind, on_get, if_neg inactive, complete, inWorld, on_part, completed]
    rfl
  have last := next.handled permitted (congrArg Prod.fst handled)
  rw [handled] at last
  exact ⟨_, last, rfl, rfl⟩

end Completing

end CommandShell.Proofs.KeyRuns
