import CommandShell.Proofs.HistoryFile
import CommandShell.Proofs.KeyRuns
import CommandShell.Proofs.SameWork

/-! What the keys of a line do, one by one. A printable character goes into the line. The key that
enters the line writes it into the file of the history and carries it out. In both cases the line is
drawn again. -/

namespace CommandShell.Proofs.TypedKeys
open ActSteps FolderWalks HistoryFile KeyRuns KeyTurns LineRuns SameWork Shell

/-- A line has been typed up to its end, and nothing else is going on. -/
structure Awaiting (history : History) (files : Files) (text : Text) (shell : Shell) : Prop where
  buffer : shell.editor.buffer = .ofText text
  decoder : shell.editor.decoder = {}
  closed : shell.session.pager.active = false
  history : shell.session.history = history
  files : shell.world.files = files

/-- Something was shown, or told to the journal, or the terminal changed its mode. -/
def Refreshed (shell after : Shell) : Prop :=
  ∃ notices highlighter journal mode modeChanges, after = { shell with
    screen := .record notices, highlighter, mode, modeChanges, world := { shell.world with journal } }

namespace Refreshed

variable {shell after last : Shell}

theorem refl (keeping : Keeping shell) : Refreshed shell shell := by
  obtain ⟨notices, screen⟩ := keeping
  exact ⟨notices, shell.highlighter, shell.world.journal, shell.mode, shell.modeChanges, by rw [← screen]⟩

theorem trans (first : Refreshed shell after) (second : Refreshed after last) : Refreshed shell last := by
  obtain ⟨notices, highlighter, journal, mode, modeChanges, rfl⟩ := first
  obtain ⟨notices, highlighter, journal, mode, modeChanges, rfl⟩ := second
  exact ⟨notices, highlighter, journal, mode, modeChanges, rfl⟩

theorem keeping (refreshed : Refreshed shell after) : Keeping after := by
  obtain ⟨notices, highlighter, journal, mode, modeChanges, rfl⟩ := refreshed
  exact ⟨notices, rfl⟩

theorem session (refreshed : Refreshed shell after) : after.session = shell.session := by
  obtain ⟨notices, highlighter, journal, mode, modeChanges, rfl⟩ := refreshed
  rfl

theorem files (refreshed : Refreshed shell after) : after.world.files = shell.world.files := by
  obtain ⟨notices, highlighter, journal, mode, modeChanges, rfl⟩ := refreshed
  rfl

theorem awaiting {history : History} {files : Files} {text : Text} (refreshed : Refreshed shell after)
    (awaiting : Awaiting history files text shell) : Awaiting history files text after := by
  obtain ⟨notices, highlighter, journal, mode, modeChanges, rfl⟩ := refreshed
  exact ⟨awaiting.buffer, awaiting.decoder, awaiting.closed, awaiting.history, awaiting.files⟩

theorem alike {known : Files} {other : Shell} (refreshed : Refreshed shell after)
    (alike : Alike known shell other) : Alike known after other := by
  obtain ⟨notices, highlighter, journal, mode, modeChanges, rfl⟩ := refreshed
  obtain ⟨core, settings, worlds, ⟨table, -⟩, able⟩ := alike
  exact ⟨core, settings, { worlds with }, ⟨table, notices, rfl⟩, able⟩

end Refreshed

theorem refreshed_display {shell : Shell} (keeping : Keeping shell) (notice : Notice) :
    ∃ after, (display notice).on shell = (.ok ⟨⟩, after) ∧ Refreshed shell after := by
  obtain ⟨notices, shown⟩ := keeping.display notice
  exact ⟨_, shown, notices, shell.highlighter, shell.world.journal, shell.mode, shell.modeChanges, rfl⟩

theorem refreshed_inMode {shell : Shell} (keeping : Keeping shell) (mode : TerminalMode) :
    Refreshed shell (inMode mode shell) := by
  obtain ⟨notices, screen⟩ := keeping
  obtain ⟨changes, same⟩ := inMode_eq mode shell
  rw [same]
  exact ⟨notices, shell.highlighter, shell.world.journal, mode, changes, by rw [← screen]⟩

section Keys

variable {serve : Request → Act Shell Unit} {shell : Shell} {c : Char}

theorem on_feed_one (starts : c ≠ Key.escapeChar) (decoder : shell.editor.decoder = {}) :
    (feed serve [c]).on shell = (handle serve (.char c)).on shell := by
  have fed : shell.editor.decoder.feed c = ({}, [.char c]) := by
    rw [decoder, Key.Decoder.feed]
    exact if_neg starts
  have same : decoded shell c = shell := by
    rw [decoded, fed, ← decoder]
  rw [on_feed_cons, fed, same, pressAll_cons, on_bind, on_bind]
  generalize (handle serve (.char c)).on shell = ran
  obtain ⟨result, after⟩ := ran
  cases result with
  | ok | error => rfl

private theorem shownFolder_failure {session : Session} {world : World} {fault : Fault}
    (failed : session.shownFolder world = .error fault) : fault.isFailure = true := by
  have home (fault : Fault) (failed : session.home world = .error fault) : fault.isFailure = true := by
    unfold Session.home at failed
    split at failed
    · cases failed
    · split at failed
      · cases failed
      · cases failed
        rfl
  unfold Session.shownFolder at failed
  cases found : session.home world with
  | error fault' =>
    rw [found] at failed
    cases failed
    exact home _ found
  | ok folder =>
    rw [found] at failed
    simp only [bind, Except.bind] at failed
    split at failed
    · cases failed
    · split at failed <;> cases failed

theorem on_render (keeping : Keeping shell) :
    (render.on shell).1 = (shell.session.shownFolder shell.world).map (fun _ => ⟨⟩) ∧
      Refreshed shell (render.on shell).2 := by
  unfold render
  rw [on_bind, on_get]
  dsimp only
  rw [on_bind, on_ofExcept]
  cases shell.session.shownFolder shell.world with
  | error fault => exact ⟨rfl, .refl keeping⟩
  | ok folder =>
    dsimp only
    have drawn (highlighter : Option Lookups) (notice : Notice) :
        ((display notice).on { shell with highlighter }).1 = .ok ⟨⟩ ∧
          Refreshed shell ((display notice).on { shell with highlighter }).2 := by
      have keeping : Keeping { shell with highlighter } := keeping
      obtain ⟨notices, shown⟩ := keeping.display notice
      rw [shown]
      exact ⟨rfl, notices, highlighter, shell.world.journal, shell.mode, shell.modeChanges, rfl⟩
    split
    · rw [map_eq_pure_bind, bind_assoc]
      exact drawn _ _
    · exact drawn _ _

/-- Keys that were handled are followed by drawing. A failure is shown, and so is one of drawing. -/
theorem on_takeChars {chars : Text} {result : Except Fault Unit} {middle : Shell}
    (fed : (feed Shell.serve chars).on shell = (result, middle))
    (mild : ∀ fault, result = .error fault → fault.isFailure = true) (keeping : Keeping middle) :
    ∃ after, (takeChars chars).on shell = (.ok ⟨⟩, after) ∧ Refreshed middle after := by
  have told {shell : Shell} (refreshed : Refreshed middle shell) (text message : Text) :
      ∃ after, (do
          note .error loopSource text
          display .finishLine
          display (.error (← get).buffer.text message) : Act Shell Unit).on shell =
        (.ok ⟨⟩, after) ∧ Refreshed middle after := by
    obtain ⟨notices, highlighter, journal, mode, modeChanges, rfl⟩ := refreshed
    exact ⟨_, rfl, _, highlighter, _, mode, modeChanges, rfl⟩
  simp only [on_bind] at told
  cases result with
  | error fault =>
    simp only [takeChars, on_bind, on_attempt, fed, if_pos (mild fault rfl)]
    exact told (.refl keeping) _ _
  | ok =>
    obtain ⟨result, drawn⟩ := on_render keeping
    simp only [takeChars, on_bind, on_attempt, fed, on_get]
    by_cases runs : middle.session.running = true
    · rw [if_pos runs]
      generalize render.on middle = ran at result drawn ⊢
      obtain ⟨given, after⟩ := ran
      dsimp only at result drawn ⊢
      subst result
      cases shown : middle.session.shownFolder middle.world with
      | ok folder => exact ⟨after, rfl, drawn⟩
      | error fault =>
        simp only [Except.map, if_pos (shownFolder_failure shown), on_bind]
        exact told drawn _ _
    · rw [if_neg runs]
      exact ⟨middle, rfl, .refl keeping⟩

private theorem insert_ofText (text : Text) (c : Char) :
    (LineBuffer.ofText text).insert [c] = .ofText (text ++ [c]) := by
  simp [LineBuffer.insert, LineBuffer.ofText, LineBuffer.before, LineBuffer.after]

private theorem press_printable (printable : Text.isPrintable c = true) (other : c ≠ ' ') :
    press (.char c) = (do edit (·.insert [c]); refreshPager; return none : Act Shell (Option Request)) := by
  unfold press typeChar
  dsimp only
  split
  case h_14 => exact absurd rfl other
  case h_17 => rw [if_pos printable, bind_assoc]
  all_goals exact absurd printable (by decide)

private theorem expandAt_nothing {abbreviations : Abbreviations} (empty : abbreviations.table = [])
    (text : Text) : abbreviations.expandAt text text.length = .ok (text, text.length) := by
  have inside : ¬ (text.length : Int) > text.length := by omega
  have missing (word : Text) : abbreviations.expansion? word = none := by
    rw [Abbreviations.expansion?, empty]
    rfl
  unfold Abbreviations.expandAt cursorWord
  rw [if_neg inside]
  dsimp only [bind, Except.bind]
  split
  · rfl
  · rw [missing]
    rfl

private theorem on_handle_printable (serve : Request → Act Shell Unit) {history : History} {files : Files}
    {text : Text} (printable : Text.isPrintable c = true) (awaiting : Awaiting history files text shell)
    (empty : shell.session.abbreviations.table = []) :
    ∃ editor pager, (handle serve (.char c)).on shell =
        (.ok ⟨⟩, { shell with editor, session := { shell.session with pager } }) ∧
      editor.buffer = .ofText (text ++ [c]) ∧ editor.decoder = {} ∧ pager.active = false := by
  obtain ⟨buffer, decoder, closed, -, -⟩ := awaiting
  by_cases space : c = ' '
  · subst space
    have pressed : press (.char ' ') = (do
        expandAbbreviation
        edit (·.insert [' '])
        closePager : Act Shell Unit) >>= fun _ => pure none := rfl
    have same : LineBuffer.place text text.length = .ofText text := by
      simp [LineBuffer.place, LineBuffer.ofText]
    have expanded := expandAt_nothing empty text
    rw [handle, pressed]
    simp only [expandAbbreviation, on_bind, on_get, on_ofExcept, Shell.buffer, buffer, LineBuffer.ofText, expanded]
    refine ⟨_, {}, rfl, ?_, decoder, rfl⟩
    exact (congrArg (·.insert [' ']) same).trans (insert_ofText text ' ')
  · refine ⟨shell.editor.edit (·.insert [c]), shell.session.pager, ?_, ?_, decoder, closed⟩
    · have inactive : ¬ shell.session.pager.active = true := Bool.eq_false_iff.mp closed
      rw [handle, press_printable printable space]
      simp only [on_bind, on_edit, refreshPager, on_get, if_neg inactive]
      rfl
    · change shell.editor.buffer.insert [c] = _
      rw [buffer, insert_ofText]

def turned (shell : Shell) (history : History) (world : World) : Shell :=
  { shell with
    editor := { shell.editor with buffer := {} }.stay, world, session := { shell.session with history } }

/-- An entered line is added to the history and then submitted. Without a record nothing is submitted. -/
theorem on_handle_enter (serve : Request → Act Shell Unit) {history : History} {files : Files} {text : Text}
    (awaiting : Awaiting history files text shell) (empty : shell.session.abbreviations.table = [])
    {next : History} {result : Except Fault Bool} {world : World}
    (added : (history.add text none).run shell.world = ((next, result), world)) :
    (handle serve (.char '\r')).on shell =
      match result with
      | .ok _ => (serve (.submit text)).on (turned shell next world)
      | .error fault =>
        (.error fault, { shell with world, session := { shell.session with history := next } }) := by
  obtain ⟨buffer, -, closed, stored, -⟩ := awaiting
  rw [← stored] at added
  have unchosen : shell.session.pager.current? = none := by
    have none : shell.session.pager.candidates = [] := by
      simpa [Pager.active] using closed
    rw [Pager.current?, none]
    rfl
  have entered : (enteredLine text).on shell =
      (result.map fun _ => text, { shell with world, session := { shell.session with history := next } }) := by
    unfold enteredLine
    split
    next nothing =>
      obtain rfl := List.isEmpty_iff.mp nothing
      cases added
      rfl
    next =>
      simp only [on_bind, on_get, on_ofExcept, expandAt_nothing empty text, inWorld, on_part, on_liftM, added,
        changeSession, on_modify, on_discard]
      cases result with
      | ok | error => rfl
  have pressed : press (.char '\r') = enter := rfl
  have typedText : shell.buffer.text = text := by
    rw [Shell.buffer, buffer, LineBuffer.ofText]
  rw [handle, pressed, on_bind, enter, on_bind, on_get]
  dsimp only
  rw [unchosen, typedText]
  dsimp only
  rw [on_bind, entered]
  cases result with
  | ok | error => rfl

/-- Submitting a line carries it out from a shell that was refreshed, and refreshes the shell after it. -/
theorem on_submit (keeping : Keeping shell) (line : Text) :
    ∃ ready, Refreshed shell ready ∧ ∀ code after, (execute line).on ready = (.ok code, after) →
      ∃ last, (submit line).on shell = (.ok ⟨⟩, last) ∧ Refreshed after last := by
  obtain ⟨drawn, shown, refreshed⟩ := refreshed_display keeping .finishLine
  unfold submit
  rw [on_bind, shown]
  dsimp only
  cases line with
  | nil =>
    refine ⟨drawn, refreshed, fun code after carried => ?_⟩
    cases carried
    exact ⟨drawn, rfl, .refl refreshed.keeping⟩
  | cons c rest =>
    refine ⟨inMode .cooked drawn, refreshed.trans (refreshed_inMode refreshed.keeping .cooked), ?_⟩
    intro code after carried
    have keeping := execute_keeping (c :: rest) (refreshed_inMode refreshed.keeping .cooked).keeping
    rw [carried] at keeping
    rw [if_neg (by simp), on_cooked, on_discard, carried]
    exact ⟨inMode drawn.mode after, rfl, refreshed_inMode keeping drawn.mode⟩

/-- The key that enters a line records the line, carries it out and draws the next one. -/
theorem on_enterKey {history next : History} {files : Files} {text : Text}
    (awaiting : Awaiting history files text shell) (empty : shell.session.abbreviations.table = [])
    (keeping : Keeping shell) {more : Bool} {world : World}
    (added : (history.add text none).run shell.world = ((next, .ok more), world)) :
    ∃ ready, Refreshed (turned shell next world) ready ∧
      ∀ code after, (execute text).on ready = (.ok code, after) →
        ∃ last, (takeChars ['\r']).on shell = (.ok ⟨⟩, last) ∧ Refreshed after last ∧
          Awaiting next after.world.files [] last := by
  have handled := on_handle_enter Shell.serve awaiting empty added
  obtain ⟨ready, refreshed, carries⟩ := on_submit (show Keeping (turned shell next world) from keeping) text
  refine ⟨ready, refreshed, fun code after carried => ?_⟩
  obtain ⟨middle, submitted, refreshed'⟩ := carries code after carried
  have fed : (feed Shell.serve ['\r']).on shell = (.ok ⟨⟩, middle) :=
    ((on_feed_one (by decide) awaiting.decoder).trans handled).trans submitted
  obtain ⟨last, took, drawn⟩ := on_takeChars fed nofun refreshed'.keeping
  have editing : (editingFrame { shell.editor with buffer := {} }.stay shell.session.pager next).holds
      ready := by
    obtain ⟨notices, highlighter, journal, mode, modeChanges, rfl⟩ := refreshed
    exact ⟨rfl, rfl, rfl⟩
  have editing := editing_execute text editing
  rw [carried] at editing
  obtain ⟨editor, pager, stored⟩ := editing
  refine ⟨last, took, refreshed'.trans drawn, drawn.awaiting (refreshed'.awaiting ⟨?_, ?_, ?_, stored, rfl⟩)⟩
  · rw [editor]
    rfl
  · rw [editor]
    exact awaiting.decoder
  · rw [pager]
    exact awaiting.closed

/-- A line that cannot be recorded is not carried out. -/
theorem on_enterKey_refused {history next : History} {files : Files} {text : Text} {fault : Fault}
    (awaiting : Awaiting history files text shell) (empty : shell.session.abbreviations.table = [])
    (keeping : Keeping shell) (failure : fault.isFailure = true)
    (added : (history.add text none).run shell.world = ((next, .error fault), shell.world)) :
    ∃ last, (takeChars ['\r']).on shell = (.ok ⟨⟩, last) ∧
      Refreshed { shell with session := { shell.session with history := next } } last := by
  have handled := on_handle_enter Shell.serve awaiting empty added
  refine on_takeChars ((on_feed_one (by decide) awaiting.decoder).trans handled) ?_ keeping
  rintro fault ⟨rfl⟩
  exact failure

end Keys

section Work

variable {known files : Files} {history : History}

theorem takes_printable {text : Text} {c : Char} (printable : Text.isPrintable c = true)
    {typed piped : Shell} (alike : Alike known typed piped) (awaiting : Awaiting history files text typed) :
    ∃ after, (takeChars [c]).on typed = (.ok ⟨⟩, after) ∧ Alike known after piped ∧
      Awaiting history files (text ++ [c]) after := by
  have starts : c ≠ Key.escapeChar := by
    rintro rfl
    exact absurd printable (by decide)
  obtain ⟨core, settings, worlds, ⟨table, keeping⟩, able⟩ := alike
  obtain ⟨editor, pager, handled, buffer, decoder, closed⟩ :=
    on_handle_printable Shell.serve printable awaiting table
  have fed := (on_feed_one starts awaiting.decoder).trans handled
  obtain ⟨after, took, refreshed⟩ := on_takeChars fed nofun keeping
  refine ⟨after, took, refreshed.alike ?_, refreshed.awaiting ?_⟩
  · exact ⟨core, settings, worlds, ⟨table, keeping⟩, able⟩
  · exact ⟨buffer, decoder, closed, awaiting.history, awaiting.files⟩

theorem takes_enter {text : Text} {typed piped : Shell} (alike : Alike known typed piped)
    (awaiting : Awaiting history files text typed)
    (kept : ∀ path ∈ history.file, InPlace path piped.world.files)
    (plain : ∀ stage ∈ stages (commandsOf text) piped, Plain stage.command) :
    (∃ code, ((execute text).on piped).1 = .ok code) ∧
      ∃ after next files, (takeChars ['\r']).on typed = (.ok ⟨⟩, after) ∧
        Alike known after ((execute text).on piped).2 ∧ Awaiting next files [] after ∧
        next.file = history.file := by
  have worlds := alike.2.2.1
  have kept' (path : Path) (inside : path ∈ history.file) : InPlace path typed.world.files :=
    inPlace_same (worlds.second.symm.trans worlds.first) worlds.here.symm (kept path inside)
  obtain ⟨next, more, world, added, stored, recorded⟩ := run_add_kept kept' text
  obtain ⟨core, settings, worlds, ⟨table, keeping⟩, able⟩ := alike
  obtain ⟨ready, refreshed, enters⟩ := on_enterKey awaiting table keeping added
  obtain ⟨files, journal, rfl, same, here⟩ := recorded
  have alike : Alike known (turned typed next { typed.world with files, journal }) piped :=
    ⟨core, settings, { worlds with first := worlds.first.trans same, here := here.trans worlds.here },
      ⟨table, keeping⟩, able⟩
  obtain ⟨code, first, second, still⟩ := alike_execute text (refreshed.alike alike) plain
  obtain ⟨last, took, refreshed', awaiting'⟩ := enters code _ (Prod.ext first rfl)
  exact ⟨⟨code, second⟩, last, next, _, took, refreshed'.alike still, awaiting', stored⟩

end Work

end CommandShell.Proofs.TypedKeys
