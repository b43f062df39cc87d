import CommandShell.Proofs.KeyRuns
import Mathlib.Logic.Function.Iterate

/-! Commands from the history that are suggested and taken. A suggestion goes on from the line and is the
newest one that does, and the lines that are taken one after the other come to an end. -/

namespace CommandShell.Proofs.Suggestions
open ActSteps KeyRuns KeyTurns Shell

def Extends (text command : Text) : Prop := text <+: command ∧ command ≠ text

instance (text command : Text) : Decidable (Extends text command) := inferInstanceAs (Decidable (_ ∧ _))

theorem Extends.length_lt {text command : Text} (goes_on : Extends text command) :
    text.length < command.length := by
  obtain ⟨begins, other⟩ := goes_on
  refine Nat.lt_of_le_of_ne begins.length_le fun same => ?_
  exact other (begins.eq_of_length same).symm

theorem Extends.trans {text command more : Text} (first : Extends text command) (second : Extends command more) :
    Extends text more := by
  have longer := Nat.lt_trans first.length_lt second.length_lt
  refine ⟨first.1.trans second.1, fun same => ?_⟩
  rw [same] at longer
  exact Nat.lt_irrefl _ longer

section History

variable {history : History} {front command : Text}

private theorem found_iff (entry : Entry) :
    (front.isPrefixOf entry.command && decide (entry.command ≠ front)) = true ↔ Extends front entry.command := by
  rw [Bool.and_eq_true, List.isPrefixOf_iff_prefix, decide_eq_true_eq, Extends]

theorem suggestion?_eq_none_iff : history.suggestion? front = none ↔
    front = [] ∨ ∀ entry ∈ history.entries, ¬ Extends front entry.command := by
  unfold History.suggestion?
  split
  next empty => exact iff_of_true rfl (.inl (List.isEmpty_iff.mp empty))
  next filled =>
    have some_front : front ≠ [] := fun empty => filled (List.isEmpty_iff.mpr empty)
    rw [Option.map_eq_none_iff, List.find?_eq_none, or_iff_right some_front]
    simp only [found_iff, List.mem_reverse]

theorem suggestion?_eq_some_iff : history.suggestion? front = some command ↔
    front ≠ [] ∧ ∃ older entry newer, history.entries = older ++ entry :: newer ∧ entry.command = command ∧
      Extends front command ∧ ∀ other ∈ newer, ¬ Extends front other.command := by
  unfold History.suggestion?
  split
  next empty => exact iff_of_false nofun fun both => both.1 (List.isEmpty_iff.mp empty)
  next filled =>
    have some_front : front ≠ [] := fun empty => filled (List.isEmpty_iff.mpr empty)
    simp only [Option.map_eq_some_iff, List.find?_eq_some_iff_append, found_iff, Bool.not_eq_true',
      Bool.eq_false_iff, ne_eq]
    constructor
    · rintro ⟨entry, ⟨goes_on, newer, older, split, others⟩, rfl⟩
      refine ⟨some_front, older.reverse, entry, newer.reverse, ?_, rfl, goes_on, ?_⟩
      · rw [← List.reverse_reverse history.entries, split]
        simp
      · exact fun other inside => others other (List.mem_reverse.mp inside)
    · rintro ⟨-, older, entry, newer, split, rfl, goes_on, others⟩
      refine ⟨entry, ⟨goes_on, newer.reverse, older.reverse, ?_, ?_⟩, rfl⟩
      · rw [split]
        simp
      · exact fun other inside => others other (List.mem_reverse.mp inside)

def extensions (history : History) (text : Text) : List Entry :=
  history.entries.filter fun entry => Extends text entry.command

/-- What goes on from a suggestion goes on from the line, and of what does the suggestion itself is one more. -/
theorem extensions_lt (suggested : history.suggestion? front = some command) :
    (extensions history command).length < (extensions history front).length := by
  obtain ⟨-, older, entry, newer, split, rfl, goes_on, -⟩ := suggestion?_eq_some_iff.mp suggested
  have among : extensions history entry.command =
      (extensions history front).filter fun other => Extends entry.command other.command := by
    rw [extensions, extensions, List.filter_filter]
    refine List.filter_congr fun other _ => ?_
    rw [Bool.eq_iff_iff, Bool.and_eq_true, decide_eq_true_eq, decide_eq_true_eq]
    exact ⟨fun more => ⟨more, goes_on.trans more⟩, And.left⟩
  have inside : entry ∈ extensions history front := by
    refine List.mem_filter.mpr ⟨?_, decide_eq_true goes_on⟩
    rw [split]
    simp
  rw [among]
  exact List.length_filter_lt_length_iff_exists.mpr ⟨entry, inside, by simp [Extends]⟩

def taken (history : History) (text : Text) : Text := (history.suggestion? text).getD text

private theorem taken_cases (history : History) (text : Text) :
    Extends text (taken history text) ∧
      (extensions history (taken history text)).length < (extensions history text).length ∨
    taken history text = text ∧ history.suggestion? text = none := by
  unfold taken
  cases suggested : history.suggestion? text with
  | none => exact .inr ⟨rfl, rfl⟩
  | some command =>
    obtain ⟨-, -, -, -, -, -, goes_on, -⟩ := suggestion?_eq_some_iff.mp suggested
    exact .inl ⟨goes_on, extensions_lt suggested⟩

private theorem prefix_taken (history : History) (text : Text) : text <+: taken history text := by
  obtain ⟨goes_on, -⟩ | ⟨same, -⟩ := taken_cases history text
  · exact goes_on.1
  · exact ⟨[], (List.append_nil text).trans same.symm⟩

private theorem prefix_iterate (history : History) (text : Text) (presses : Nat) :
    text <+: (taken history)^[presses] text := by
  induction presses generalizing text with
  | zero => exact List.prefix_rfl
  | succ presses ih => exact (prefix_taken history text).trans (ih _)

/-- Taking suggestions makes the line longer each time, until none is left. -/
theorem taken_ends (history : History) (text : Text) :
    ∃ most ≤ (extensions history text).length,
      (∀ n < most, Extends ((taken history)^[n] text) ((taken history)^[n + 1] text)) ∧
      (∀ n, most ≤ n → (taken history)^[n] text = (taken history)^[most] text) ∧
      history.suggestion? ((taken history)^[most] text) = none := by
  induction size : (extensions history text).length using Nat.strongRecOn generalizing text with
  | ind size ih =>
    obtain ⟨goes_on, fewer⟩ | ⟨same, none⟩ := taken_cases history text
    · obtain ⟨most, bound, grows, rests, none⟩ := ih _ (size ▸ fewer) _ rfl
      refine ⟨most + 1, by omega, fun n before => ?_, fun n behind => ?_, none⟩
      · cases n with
        | zero => exact goes_on
        | succ n => exact grows n (Nat.lt_of_succ_lt_succ before)
      · cases n with
        | zero => cases behind
        | succ n => exact rests n (Nat.le_of_succ_le_succ behind)
    · refine ⟨0, Nat.zero_le _, nofun, fun n _ => Function.iterate_fixed same n, none⟩

end History

inductive Taking
  | right
  | controlF

def Taking.key : Taking → Key
  | right => .right
  | controlF => .char '\x06'

section Keys

variable {history : History} {editor : Editor} {shell : Shell}

private theorem ofText_of_atEnd {buffer : LineBuffer} (last : buffer.atEnd = true) :
    buffer = .ofText buffer.text := by
  have cursor : buffer.cursor = buffer.text.length := of_decide_eq_true last
  rw [LineBuffer.ofText, ← cursor]

/-- At the end of the line the editor takes the suggestion, or nothing changes. -/
theorem acceptOrMove_eq (last : editor.buffer.atEnd = true) : editor.acceptOrMove history =
    match history.suggestion? editor.buffer.text with
    | some command => { editor with buffer := .ofText command }.stay
    | none => editor := by
  have stays : editor.move .moveRight = editor := by
    have cursor : editor.buffer.cursor = editor.buffer.text.length := of_decide_eq_true last
    have same : editor.buffer.moveRight = editor.buffer := by
      rw [LineBuffer.moveRight, cursor, Nat.min_eq_left (Nat.le_succ _), ← cursor]
    rw [Editor.move, same]
  unfold Editor.acceptOrMove Editor.suggestion?
  cases history.suggestion? editor.buffer.text with
  | none => exact stays
  | some command => exact if_pos last

private theorem buffer_acceptOrMove (last : editor.buffer.atEnd = true) :
    (editor.acceptOrMove history).buffer = .ofText (taken history editor.buffer.text) := by
  rw [acceptOrMove_eq last, taken]
  cases history.suggestion? editor.buffer.text with
  | none => exact ofText_of_atEnd last
  | some command => rfl

private theorem on_press_taking (key : Taking) : (press key.key).on shell = (.ok none, { shell with
    session := { shell.session with pager := {} }
    editor := shell.editor.acceptOrMove shell.session.history }) := by
  cases key with
  | right | controlF => rfl

variable (serve : Request → Act Shell Unit)

private theorem on_taking (keys : List Taking) (last : shell.buffer.atEnd = true) :
    ∃ after, (pressAll serve (keys.map Taking.key)).on shell = (.ok ⟨⟩, after) ∧
      after.buffer = .ofText ((taken shell.session.history)^[keys.length] shell.buffer.text) ∧
      after.session.history = shell.session.history := by
  induction keys generalizing shell with
  | nil => exact ⟨shell, rfl, ofText_of_atEnd last, rfl⟩
  | cons key keys ih =>
    have end_again : (shell.editor.acceptOrMove shell.session.history).buffer.atEnd = true := by
      rw [buffer_acceptOrMove last]
      exact decide_eq_true rfl
    rw [List.map_cons, pressAll_cons, on_bind, handle, on_bind, on_press_taking, List.length_cons,
      Function.iterate_succ_apply]
    have text : (shell.editor.acceptOrMove shell.session.history).buffer.text =
        taken shell.session.history shell.buffer.text := by
      rw [buffer_acceptOrMove last]
      rfl
    rw [← text]
    exact ih end_again

/-- At the end of the line the keys put the suggestion in its place. Each press leaves what was typed, and
after as many presses as there are entries nothing in the history goes on from the line, unless it is empty. -/
theorem suggestions_taken (last : shell.buffer.atEnd = true) :
    let typed := shell.buffer.text
    let text := fun presses => (taken shell.session.history)^[presses] typed
    (∀ (history : History) front, history.suggestion? front = none ↔
      front = [] ∨ ∀ entry ∈ history.entries, ¬ Extends front entry.command) ∧
    (∀ (history : History) front command, history.suggestion? front = some command ↔
      front ≠ [] ∧ ∃ older entry newer, history.entries = older ++ entry :: newer ∧
        entry.command = command ∧ Extends front command ∧
        ∀ other ∈ newer, ¬ Extends front other.command) ∧
    (∀ key : Taking, (press key.key).on shell = (.ok none, { shell with
      session := { shell.session with pager := {} }
      editor := match shell.session.history.suggestion? typed with
        | some command => { shell.editor with buffer := .ofText command }.stay
        | none => shell.editor })) ∧
    (∀ keys : List Taking, ∃ after, (pressAll serve (keys.map Taking.key)).on shell = (.ok ⟨⟩, after) ∧
      after.buffer = .ofText (text keys.length)) ∧
    (∀ presses, typed <+: text presses) ∧
    (typed = [] → ∀ presses, text presses = []) ∧
    (typed ≠ [] → ∃ most ≤ shell.session.history.entries.length,
      (∀ presses < most, Extends (text presses) (text (presses + 1))) ∧
      (∀ presses, most ≤ presses → text presses = text most) ∧
      ∀ entry ∈ shell.session.history.entries, ¬ Extends (text most) entry.command) := by
  intro typed text
  refine ⟨fun _ _ => suggestion?_eq_none_iff, fun _ _ _ => suggestion?_eq_some_iff, fun key => ?_,
    fun keys => ?_, prefix_iterate _ _, fun empty presses => ?_, fun filled => ?_⟩
  · rw [on_press_taking, acceptOrMove_eq last]
    rfl
  · obtain ⟨after, ran, line, -⟩ := on_taking serve keys last
    exact ⟨after, ran, line⟩
  · have rests : taken shell.session.history typed = typed := by
      rw [taken, suggestion?_eq_none_iff.mpr (.inl empty), Option.getD_none]
    exact (Function.iterate_fixed rests presses).trans empty
  · obtain ⟨most, few, grows, rests, none⟩ := taken_ends shell.session.history typed
    refine ⟨most, Nat.le_trans few (List.length_filter_le _ _), grows, rests, ?_⟩
    obtain empty | ends := suggestion?_eq_none_iff.mp none
    · have nothing := empty ▸ prefix_iterate shell.session.history typed most
      exact absurd (List.prefix_nil.mp nothing) filled
    · exact ends

end Keys

def suggesting (typed : Text) (commands : List Text) : Shell := { bareShell with
  session := { bareShell.session with
    history := { bareShell.session.history with entries := commands.map (⟨·, 0⟩) } }
  editor := { bareShell.editor with buffer := .ofText typed } }

/-- The newest command that goes on from the line is first, and a longer one is reached from it. -/
theorem shorter_then_longer :
    (suggesting "c" ["cat notes", "ca", "c", "ls"]).buffer.atEnd = true ∧
    ∃ after, (pressAll Shell.serve ([.right, .controlF, .right].map Taking.key)).on
        (suggesting "c" ["cat notes", "ca", "c", "ls"]) = (.ok ⟨⟩, after) ∧
      after.buffer = .ofText "cat notes" := by
  have last : (suggesting "c" ["cat notes", "ca", "c", "ls"]).buffer.atEnd = true := by decide
  obtain ⟨-, -, -, pressed, -⟩ := suggestions_taken Shell.serve last
  exact ⟨last, pressed [.right, .controlF, .right]⟩

/-- Nothing is suggested for an empty line, although each command goes on from it. -/
theorem empty_line_stays :
    (suggesting [] ["ls"]).buffer.atEnd = true ∧
    (∀ keys : List Taking, ∃ after, (pressAll Shell.serve (keys.map Taking.key)).on (suggesting [] ["ls"]) =
      (.ok ⟨⟩, after) ∧ after.buffer.text = []) ∧
    ∃ entry ∈ (suggesting [] ["ls"]).session.history.entries, Extends [] entry.command := by
  have last : (suggesting [] ["ls"]).buffer.atEnd = true := by decide
  refine ⟨last, fun keys => ?_, ⟨"ls", 0⟩, List.mem_singleton.mpr rfl, by decide⟩
  obtain ⟨after, ran, line, -⟩ := on_taking Shell.serve keys last
  have rests : taken (suggesting [] ["ls"]).session.history [] = [] := by decide
  refine ⟨after, ran, ?_⟩
  rw [line]
  exact Function.iterate_fixed rests keys.length

end CommandShell.Proofs.Suggestions
