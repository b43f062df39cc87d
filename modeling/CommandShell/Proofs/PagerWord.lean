import CommandShell.Proofs.KeyRuns
import CommandShell.Proofs.WordBefore

/-! The open pager completes the word before the cursor: its filter is that word after every press
that is handled, unless a line break is put in while it is open or completing anew fails. So the
candidate that is taken replaces just that word. -/

namespace CommandShell.Proofs.PagerWord
open ActSteps KeyTurns KeyRuns Shell WordBefore

/-- While the pager is open, no line break is put in and no press fails. -/
def Keeps (key : Key) (shell : Shell) : Prop :=
  shell.session.pager.active = true →
    key ≠ .altEnter ∧ ∃ request, ((press key).on shell).1 = .ok request

/-- The cursor is inside, an open pager has a candidate selected, and its filter is the word before
the cursor. -/
structure Sound (shell : Shell) : Prop where
  inside : Inside shell.editor.buffer
  selected (active : shell.session.pager.active = true) :
    shell.session.pager.selected < shell.session.pager.candidates.length
  word (active : shell.session.pager.active = true) :
    cursorWord shell.editor.buffer.text shell.editor.buffer.cursor = .ok shell.session.pager.filter

theorem sound_of_closed {shell : Shell} (inside : Inside shell.editor.buffer)
    (closed : shell.session.pager.active = false) : Sound shell where
  inside := inside
  selected active := by
    rw [closed] at active
    cases active
  word active := by
    rw [closed] at active
    cases active

private theorem sound_of_filled {shell : Shell} {candidates : List Candidate} {word : Text}
    (inside : Inside shell.editor.buffer)
    (read : cursorWord shell.editor.buffer.text shell.editor.buffer.cursor = .ok word)
    (fills : shell.session.pager = .ofCandidates candidates word) : Sound shell where
  inside := inside
  selected active := by
    rw [fills] at active ⊢
    cases candidates with
    | nil => cases active
    | cons first rest => exact Nat.zero_lt_succ _
  word _ := by
    rw [fills]
    exact read

def Selects (before after : Pager) : Prop :=
  ∃ place, after = { before with selected := place } ∧
    (before.active = true → place < before.candidates.length)

theorem count_pos {pager : Pager} (active : pager.active = true) : 0 < pager.candidates.length := by
  unfold Pager.active at active
  cases candidates : pager.candidates with
  | nil =>
    rw [candidates] at active
    cases active
  | cons first rest => exact Nat.zero_lt_succ _

private theorem selects_next (pager : Pager) : Selects pager pager.next := by
  unfold Pager.next
  split
  next active => exact ⟨_, rfl, fun _ => Nat.mod_lt _ (count_pos active)⟩
  next closed => exact ⟨pager.selected, rfl, fun active => absurd active closed⟩

private theorem selects_previous (pager : Pager) : Selects pager pager.previous := by
  unfold Pager.previous
  split
  next active => exact ⟨_, rfl, fun _ => Nat.mod_lt _ (count_pos active)⟩
  next closed => exact ⟨pager.selected, rfl, fun active => absurd active closed⟩

private theorem sound_of_selects {before after : Shell} (sound : Sound before)
    (editor : after.editor = before.editor)
    (selects : Selects before.session.pager after.session.pager) : Sound after := by
  obtain ⟨place, pager, inside⟩ := selects
  refine ⟨by rw [editor]; exact sound.inside, ?_, ?_⟩
  · rw [pager]
    exact inside
  · rw [pager, editor]
    exact sound.word

private theorem no_candidate {shell : Shell} (sound : Sound shell)
    (unchosen : shell.session.pager.current? = none) : shell.session.pager.active = false := by
  cases active : shell.session.pager.active with
  | false => rfl
  | true =>
    have selected := sound.selected active
    rw [Pager.current?, List.getElem?_eq_none_iff] at unchosen
    omega

private theorem sound_of_turn {key : Key} {before after : Shell}
    (turn : Turn key before ((press key).on before).1 after) (permitted : Keeps key before)
    (sound : Sound before) : Sound after := by
  cases turn with
  | idle editor pager history =>
    exact ⟨by rw [editor]; exact sound.inside, by rw [pager]; exact sound.selected,
      by rw [editor, pager]; exact sound.word⟩
  | moved inside text editor closes history =>
    refine sound_of_closed ?_ (by rw [closes]; rfl)
    rw [editor]
    exact inside _ sound.inside
  | edited inside editor closed history =>
    refine sound_of_closed ?_ closed
    rw [editor]
    exact inside _ sound.inside
  | opened editor read fills history =>
    exact sound_of_filled (by rw [editor]; exact sound.inside) read fills
  | refilled inside editor read fills history =>
    exact sound_of_filled (by rw [editor]; exact inside _ sound.inside) read fills
  | outdated inside cause active editor pager history =>
    -- Only a line break or a press that fails does this, and neither is permitted here.
    obtain ⟨other, request, pressed⟩ := permitted active
    obtain lineBreak | ⟨fault, failed⟩ := cause
    · exact absurd lineBreak other
    · rw [pressed] at failed
      cases failed
  | selected editor selects history =>
    obtain selects | selects := selects
    · exact sound_of_selects sound editor (selects ▸ selects_next _)
    · exact sound_of_selects sound editor (selects ▸ selects_previous _)
  | walked walks shows closed pager history =>
    refine sound_of_closed ?_ (by rw [pager]; exact closed)
    obtain editor | editor := shows
    · rw [editor]
      exact inside_older _ sound.inside
    · rw [editor]
      exact inside_newer _ sound.inside
  | accepted enters chosen editor closes history =>
    refine sound_of_closed ?_ (by rw [closes]; rfl)
    rw [editor]
    exact keepsInside_replaceBefore _ _ _ sound.inside
  | submitted enters unchosen editor pager asks =>
    refine sound_of_closed ?_ (by rw [pager]; exact no_candidate sound unchosen)
    rw [editor]
    exact Nat.zero_le _
  | stuck enters failed editor pager pushes =>
    exact ⟨by rw [editor]; exact sound.inside, by rw [pager]; exact sound.selected,
      by rw [editor, pager]; exact sound.word⟩

variable {serve : Request → Act Shell Unit} (leaves : Leaves serve)

include leaves

private theorem sound_of_handle {key : Key} {shell : Shell} (permitted : Keeps key shell)
    (sound : Sound shell) : Sound ((handle serve key).on shell).2 :=
  sound_of_turn (handle_turn leaves key shell) permitted sound

private theorem sound_of_typed {start : Shell} (fresh : Fresh start) {pending : List Key} {shell : Shell}
    (typed : Typed serve Keeps start pending shell) : Sound shell := by
  induction typed with
  | start =>
    refine sound_of_closed ?_ fresh.closed
    rw [fresh.editor]
    exact Nat.le_refl 0
  | char _ _ ih => exact ⟨ih.inside, ih.selected, ih.word⟩
  | handled _ permitted _ ih => exact sound_of_handle leaves permitted ih
  | failed _ permitted _ ih => exact sound_of_handle leaves permitted ih

omit leaves

/-- Replacing the end of what stands before the cursor leaves the rest of the text. -/
theorem replaceBefore_suffix {buffer : LineBuffer} (inside : Inside buffer) {front word : Text}
    (before : buffer.before = front ++ word) (value : Text) :
    buffer.replaceBefore word.length value =
      ⟨front ++ value ++ buffer.after, (front ++ value).length⟩ := by
  obtain ⟨place, kept⟩ := place_word inside before.symm
  simp only [LineBuffer.replaceBefore, place, Int.toNat_natCast, kept, List.length_append]

private theorem before_of_word {buffer : LineBuffer} (inside : Inside buffer) {word : Text}
    (read : cursorWord buffer.text buffer.cursor = .ok word) :
    ∃ front, buffer.before = front ++ word := by
  obtain rfl := Except.ok.inj ((cursorWord_eq inside).symm.trans read)
  exact ⟨front buffer.before, (front_append buffer.before).symm⟩

/-- While the pager is open, its filter is the word before the cursor, and entering replaces just that
word by the selected candidate. -/
theorem pager_completes_word (leaves : Leaves serve) {start : Shell} (fresh : Fresh start)
    {pending : List Key} {shell : Shell} (typed : Typed serve Keeps start pending shell)
    (active : shell.session.pager.active = true) :
    cursorWord shell.buffer.text shell.buffer.cursor = .ok shell.session.pager.filter ∧
    ∃ candidate front, shell.session.pager.current? = some candidate ∧
      shell.buffer.before = front ++ shell.session.pager.filter ∧
      ∀ key, key = .char '\r' ∨ key = .char '\n' →
        ((handle serve key).on shell).1 = .ok ⟨⟩ ∧
        ((handle serve key).on shell).2.session.pager.active = false ∧
        ((handle serve key).on shell).2.buffer =
          ⟨front ++ candidate.value ++ shell.buffer.after, (front ++ candidate.value).length⟩ := by
  have sound := sound_of_typed leaves fresh typed
  obtain ⟨front, before⟩ := before_of_word sound.inside (sound.word active)
  have chosen := List.getElem?_eq_getElem (sound.selected active)
  refine ⟨sound.word active, _, front, chosen, before, fun key enters => ?_⟩
  rw [handle_enter serve enters chosen]
  exact ⟨rfl, rfl, replaceBefore_suffix sound.inside before _⟩

private theorem typed_open (serve : Request → Act Shell Unit) (allowed : Key → Shell → Prop)
    (typing : allowed (.char 'c') (decoded bareShell 'c'))
    (completing : ∀ shell, shell.session.pager.active = false → allowed (.char '\t') shell) :
    ∃ shell, Typed serve allowed bareShell [] shell ∧ shell.editor = ⟨⟨['c'], 1⟩, {}, none, []⟩ ∧
      shell.session.pager = .ofCandidates [⟨"cd", "cd", some "Builtin"⟩] ['c'] := by
  have first : Typed serve allowed bareShell [.char 'c'] (decoded bareShell 'c') :=
    Typed.start.char 'c'
  have typed : Typed serve allowed bareShell [] { bareShell with editor := ⟨⟨['c'], 1⟩, {}, none, []⟩ } :=
    first.handled typing rfl
  obtain ⟨shell, opened, editor, session⟩ := typed_tab typed (completing _ rfl) rfl rfl rfl rfl rfl
  exact ⟨shell, opened, editor, by rw [session]⟩

private theorem bareShell_fresh : Fresh bareShell := ⟨rfl, rfl⟩

theorem open_pager_completes :
    Leaves Shell.serve ∧ Fresh bareShell ∧
    ∃ shell, Typed Shell.serve Keeps bareShell [] shell ∧ shell.session.pager.active = true ∧
      cursorWord shell.buffer.text shell.buffer.cursor = .ok shell.session.pager.filter := by
  have typing : Keeps (.char 'c') (decoded bareShell 'c') := nofun
  have completing (shell : Shell) (closed : shell.session.pager.active = false) :
      Keeps (.char '\t') shell := by
    intro active
    rw [closed] at active
    cases active
  obtain ⟨shell, typed, -, opened⟩ := typed_open Shell.serve Keeps typing completing
  have active : shell.session.pager.active = true := by
    rw [opened]
    rfl
  exact ⟨leaves_serve, bareShell_fresh, shell, typed, active,
    (pager_completes_word leaves_serve bareShell_fresh typed active).1⟩

/-- A line break put in while the pager is open leaves the filter at the word before it. -/
theorem lineBreak_leaves_filter :
    ∃ shell, Typed Shell.serve (fun _ _ => True) bareShell [] shell ∧
      shell.session.pager.active = true ∧ shell.session.pager.filter = ['c'] ∧
      cursorWord shell.buffer.text shell.buffer.cursor = .ok [] := by
  obtain ⟨shell, typed, editor, opened⟩ :=
    typed_open Shell.serve (fun _ _ => True) trivial fun _ _ => trivial
  have escaped := typed.char Key.escapeChar
  have nothing : (shell.editor.decoder.feed Key.escapeChar).2 = [] := by
    rw [editor]
    rfl
  rw [nothing] at escaped
  have entered := escaped.char '\r'
  have lineBreak : ((decoded shell Key.escapeChar).editor.decoder.feed '\r').2 = [.altEnter] := by
    rw [decoded, editor]
    rfl
  rw [lineBreak] at entered
  refine ⟨_, entered.handled trivial rfl, ?_, ?_, ?_⟩
  · change shell.session.pager.active = true
    rw [opened]
    rfl
  · change shell.session.pager.filter = ['c']
    rw [opened]
    rfl
  · change cursorWord (shell.editor.buffer.insert ['\n']).text
      (shell.editor.buffer.insert ['\n']).cursor = .ok []
    rw [editor]
    rfl

end CommandShell.Proofs.PagerWord
