import CommandShell.Proofs.KeyRuns

/-! Going through the history with the arrows is a cursor over a list: the text that was typed, and behind
it the entries that start with it, from the newest to the oldest. The keys move the cursor by one place
and stop at either end, however the places are kept and searched for. -/

namespace CommandShell.Proofs.HistoryCursor
open ActSteps KeyRuns Shell

def startsAt (history : History) (front : Text) (index : Nat) : Bool :=
  history.entries[index]?.any fun entry => front.isPrefixOf entry.command

def matching (history : History) (front : Text) : List Nat :=
  (List.range history.entries.length).reverse.filter (startsAt history front)

def lineAt (history : History) (front : Text) : Nat → Option Text
  | 0 => some front
  | place + 1 => do
    let index ← (matching history front)[place]?
    let entry ← history.entries[index]?
    return entry.command

inductive Arrow
  | up
  | down

namespace Arrow

def key : Arrow → Key
  | up => .up
  | down => .down

/-- Where the cursor goes from a place when so many entries match. -/
def move (most place : Nat) : Arrow → Nat
  | up => min (place + 1) most
  | down => place - 1

def turn (history : History) (editor : Editor) : Arrow → Editor
  | up => editor.older history
  | down => editor.newer history

end Arrow

section Search

variable {history : History} {front : Text}

private theorem startsAt_present {index : Nat} {entry : Entry}
    (present : history.entries[index]? = some entry) :
    startsAt history front index = front.isPrefixOf entry.command := by
  rw [startsAt, present, Option.any_some]

private theorem seek_back {index tries : Nat} (enough : index ≤ tries)
    (inside : index ≤ history.entries.length) :
    history.seek front (-1) tries ((index : Int) - 1) =
      (List.range index).reverse.find? (startsAt history front) := by
  induction index generalizing tries with
  | zero => cases tries <;> rfl
  | succ index ih =>
    obtain ⟨tries, rfl⟩ : ∃ left, tries = left + 1 := ⟨tries - 1, by omega⟩
    have present : history.entries[index]? = some history.entries[index] := List.getElem?_eq_getElem inside
    have here : ((index + 1 : Nat) : Int) - 1 = index := by omega
    rw [here, History.seek, if_neg (by omega), Int.toNat_natCast, present, List.range_succ,
      List.reverse_append, List.reverse_singleton, List.singleton_append, List.find?_cons,
      startsAt_present present]
    dsimp only
    cases front.isPrefixOf history.entries[index].command with
    | true => rfl
    | false => exact ih (by omega) (by omega)

private theorem seek_on (index : Nat) {tries : Nat} (enough : history.entries.length ≤ index + tries) :
    history.seek front 1 tries (index : Int) =
      (List.range' index (history.entries.length - index)).find? (startsAt history front) := by
  induction tries generalizing index with
  | zero =>
    rw [Nat.sub_eq_zero_of_le (by omega)]
    rfl
  | succ tries ih =>
    rw [History.seek, if_neg (by omega), Int.toNat_natCast]
    by_cases inside : index < history.entries.length
    · have present : history.entries[index]? = some history.entries[index] := List.getElem?_eq_getElem inside
      have more : history.entries.length - index = history.entries.length - (index + 1) + 1 := by omega
      rw [present, more, List.range'_succ, List.find?_cons, startsAt_present present]
      dsimp only
      cases front.isPrefixOf history.entries[index].command with
      | true => rfl
      | false => exact ih (index + 1) (by omega)
    · rw [List.getElem?_eq_none (by omega), Nat.sub_eq_zero_of_le (by omega)]
      rfl

variable {newer older : List Nat} {index : Nat}

/-- The indices around one that matches are all that are newer and all that are older. -/
theorem split_range (split : matching history front = newer ++ index :: older) :
    index < history.entries.length ∧ startsAt history front index = true ∧
      newer = (List.range' (index + 1) (history.entries.length - (index + 1))).reverse.filter
        (startsAt history front) ∧
      older = (List.range index).reverse.filter (startsAt history front) := by
  obtain ⟨before, rest, whole, rfl, found⟩ := List.filter_eq_append_iff.mp split
  obtain ⟨between, behind, rfl, passed, starts, rfl⟩ := List.filter_eq_cons_iff.mp found
  have nothing : between.filter (startsAt history front) = [] :=
    List.filter_eq_nil_iff.mpr passed
  have forwards : List.range' 0 history.entries.length =
      behind.reverse ++ index :: (before ++ between).reverse := by
    rw [← List.range_eq_range', ← List.reverse_reverse (List.range _), whole]
    simp
  obtain ⟨place, inside, low, high⟩ := List.range'_eq_append_iff.mp forwards
  have some_left : history.entries.length - place ≠ 0 := by
    intro empty
    rw [empty] at high
    cases high
  obtain ⟨left, count⟩ := Nat.exists_eq_succ_of_ne_zero some_left
  rw [count, List.range'_succ, Nat.zero_add, Nat.mul_one] at high
  obtain ⟨rfl, high⟩ := List.cons.inj high
  refine ⟨by omega, starts, ?_, ?_⟩
  · rw [show history.entries.length - (index + 1) = left by omega, ← high, List.reverse_reverse,
      List.filter_append, nothing, List.append_nil]
  · rw [List.range_eq_range', ← low, List.reverse_reverse]

private theorem find?_older (split : matching history front = newer ++ index :: older) :
    history.find? front ((index : Int) - 1) (-1) = older.head? := by
  obtain ⟨inside, -, -, rest⟩ := split_range split
  rw [History.find?, seek_back (by omega) (by omega), rest, List.head?_filter]

private theorem find?_newer (split : matching history front = newer ++ index :: older) :
    history.find? front ((index : Int) + 1) 1 = newer.getLast? := by
  obtain ⟨-, -, rest, -⟩ := split_range split
  rw [History.find?, rest, List.getLast?_filter, List.reverse_reverse]
  exact seek_on (index + 1) (by omega)

private theorem find?_newest :
    history.find? front ((history.entries.length : Int) - 1) (-1) = (matching history front).head? := by
  rw [History.find?, seek_back (Nat.le_refl _) (Nat.le_refl _), matching, List.head?_filter]

private theorem find?_beyond : history.find? front ((history.entries.length : Int) + 1) 1 = none := by
  have searched : history.find? front ((history.entries.length + 1 : Nat) : Int) 1 = _ :=
    seek_on (history.entries.length + 1) (by omega)
  rwa [Nat.sub_eq_zero_of_le (Nat.le_succ _)] at searched

private theorem present_of_split (split : matching history front = newer ++ index :: older) :
    ∃ entry, history.entries[index]? = some entry :=
  ⟨_, List.getElem?_eq_getElem (split_range split).1⟩

end Search

/-- Where an editor is on its way through the entries that start with a text, as a place of the cursor. -/
inductive Stands (history : History) (front : Text) (editor : Editor) : Nat → Prop
  | resting (ended : editor.position = none) (line : editor.buffer.text = front) :
      Stands history front editor 0
  /-- The walk was begun, but no entry matches. -/
  | begun (walking : editor.position = some history.entries.length) (kept : editor.front = front)
      (line : editor.buffer.text = front) (nothing : matching history front = []) :
      Stands history front editor 0
  | showing {newer older : List Nat} {index : Nat} {entry : Entry} (walking : editor.position = some index)
      (kept : editor.front = front) (split : matching history front = newer ++ index :: older)
      (present : history.entries[index]? = some entry) (line : editor.buffer.text = entry.command) :
      Stands history front editor (newer.length + 1)

section Steps

variable {history : History} {front : Text} {editor : Editor} {place : Nat}

theorem stands_showEntry (kept : editor.front = front) {newer older : List Nat} {index : Nat}
    (split : matching history front = newer ++ index :: older) :
    Stands history front (editor.showEntry history index) (newer.length + 1) := by
  obtain ⟨entry, present⟩ := present_of_split split
  rw [Editor.showEntry, present]
  exact .showing rfl kept split present rfl

theorem beginWalk_walking {index : Nat} (walking : editor.position = some index) :
    editor.beginWalk history = editor := by
  rw [Editor.beginWalk, walking]
  rfl

private theorem stands_first (walking : editor.position = some history.entries.length)
    (kept : editor.front = front)
    (line : editor.buffer.text = front) :
    Stands history front (editor.older history) (min 1 (matching history front).length) := by
  rw [Editor.older, beginWalk_walking walking, walking, Option.getD_some, kept, find?_newest]
  cases split : matching history front with
  | nil => exact .begun walking kept line split
  | cons index older =>
    rw [List.length_cons, Nat.min_eq_left (Nat.le_add_left 1 _)]
    exact @stands_showEntry _ _ _ kept [] older index split

private theorem stands_older (stands : Stands history front editor place) :
    Stands history front (editor.older history) (min (place + 1) (matching history front).length) := by
  cases stands with
  | resting ended line =>
    have starts : editor.beginWalk history =
        { editor with position := some history.entries.length, front := editor.buffer.text } := by
      rw [Editor.beginWalk, ended]
      rfl
    have begins : editor.older history = (editor.beginWalk history).older history := by
      rw [Editor.older, Editor.older, starts, beginWalk_walking rfl]
    rw [begins, starts]
    exact stands_first rfl line line
  | begun walking kept line nothing => exact stands_first walking kept line
  | @showing newer older index entry walking kept split present line =>
    rw [Editor.older, beginWalk_walking walking, walking, Option.getD_some, kept, find?_older split, split,
      List.length_append, List.length_cons]
    cases older with
    | nil =>
      rw [List.length_nil, Nat.zero_add, Nat.min_eq_right (Nat.le_succ _)]
      exact .showing walking kept split present line
    | cons next older =>
      have split' : matching history front = (newer ++ [index]) ++ next :: older := by
        rw [split, List.append_assoc]
        rfl
      have moved := stands_showEntry kept split'
      rw [List.length_append, List.length_singleton] at moved
      rw [List.length_cons, Nat.min_eq_left (by omega)]
      exact moved

private theorem stands_newer (stands : Stands history front editor place) :
    Stands history front (editor.newer history) (place - 1) := by
  cases stands with
  | resting ended line =>
    have stays : editor.newer history = editor := by rw [Editor.newer, ended]
    rw [stays]
    exact .resting ended line
  | begun walking kept line nothing =>
    rw [Editor.newer, walking]
    dsimp only
    rw [find?_beyond]
    exact .resting rfl kept
  | @showing newer older index entry walking kept split present line =>
    rw [Editor.newer, walking]
    dsimp only
    rw [kept, find?_newer split, Nat.add_sub_cancel]
    obtain rfl | ⟨newer, next, rfl⟩ := newer.eq_nil_or_concat
    · exact .resting rfl rfl
    · have split' : matching history front = newer ++ next :: index :: older := by
        rw [split, List.concat_eq_append, List.append_assoc]
        rfl
      rw [List.concat_eq_append, List.getLast?_concat, List.length_append, List.length_singleton]
      exact stands_showEntry kept split'

private theorem stands_turn (arrow : Arrow) (stands : Stands history front editor place) :
    Stands history front (arrow.turn history editor)
      (arrow.move (matching history front).length place) := by
  cases arrow with
  | up => exact stands_older stands
  | down => exact stands_newer stands

private theorem stands_turns (arrows : List Arrow) (stands : Stands history front editor place) :
    Stands history front (arrows.foldl (Arrow.turn history) editor)
      (arrows.foldl (Arrow.move (matching history front).length) place) := by
  induction arrows generalizing editor place with
  | nil => exact stands
  | cons arrow arrows ih => exact ih (stands_turn arrow stands)

private theorem lineAt_of_stands (stands : Stands history front editor place) :
    lineAt history front place = some editor.buffer.text := by
  cases stands with
  | resting ended line => rw [lineAt, line]
  | begun walking kept line nothing => rw [lineAt, line]
  | showing walking kept split present line =>
    rw [lineAt, split, List.getElem?_append_right (Nat.le_refl _), Nat.sub_self, line]
    simp [present]

/-- A line that takes the place of another one has the cursor at its end. -/
def Replaces (after before : Editor) : Prop :=
  after.buffer = before.buffer ∨ ∃ text, after.buffer = .ofText text

private theorem replaces_showEntry (editor : Editor) (history : History) (index : Nat) :
    Replaces (editor.showEntry history index) editor := by
  unfold Editor.showEntry
  split
  next entry _ => exact .inr ⟨entry.command, rfl⟩
  next => exact .inl rfl

private theorem replaces_turn (arrow : Arrow) (history : History) (editor : Editor) :
    Replaces (arrow.turn history editor) editor := by
  cases arrow with
  | up =>
    have begun : (editor.beginWalk history).buffer = editor.buffer := by
      unfold Editor.beginWalk
      split <;> rfl
    rw [Arrow.turn, Editor.older]
    split
    next index _ =>
      rw [Replaces, ← begun]
      exact replaces_showEntry _ history index
    next => exact .inl begun
  | down =>
    rw [Arrow.turn, Editor.newer]
    split
    · exact .inl rfl
    · split
      next index _ => exact replaces_showEntry editor history index
      next => exact .inr ⟨editor.front, rfl⟩

private theorem atEnd_of_replaces {after before : Editor} (replaces : Replaces after before)
    (changed : after.buffer.text ≠ before.buffer.text) : after.buffer.atEnd = true := by
  obtain same | ⟨text, line⟩ := replaces
  · exact absurd (by rw [same]) changed
  · rw [line]
    exact decide_eq_true rfl

end Steps

section Runs

variable (serve : Request → Act Shell Unit) {shell : Shell} (closed : shell.session.pager.active = false)

include closed

private theorem on_press_arrow (arrow : Arrow) :
    (handle serve arrow.key).on shell =
      (.ok ⟨⟩, { shell with editor := arrow.turn shell.session.history shell.editor }) := by
  have inactive : ¬ shell.session.pager.active = true := Bool.eq_false_iff.mp closed
  cases arrow with
  | up =>
    simp only [handle, Arrow.key, press, on_bind, on_get, if_neg inactive]
    rfl
  | down =>
    simp only [handle, Arrow.key, press, on_bind, on_get, if_neg inactive]
    rfl

private theorem on_arrows (arrows : List Arrow) :
    (pressAll serve (arrows.map Arrow.key)).on shell =
      (.ok ⟨⟩, { shell with editor := arrows.foldl (Arrow.turn shell.session.history) shell.editor }) := by
  induction arrows generalizing shell with
  | nil => rfl
  | cons arrow arrows ih =>
    rw [List.map_cons, pressAll_cons, on_bind, on_press_arrow serve closed arrow]
    exact @ih { shell with editor := arrow.turn shell.session.history shell.editor } closed

/-- The arrows move a cursor over the text that was typed and the entries that start with it. They show
what is at its place, and a line that they change has its cursor at the end. -/
theorem arrows_move_cursor (resting : shell.editor.position = none) (arrows : List Arrow) :
    let history := shell.session.history
    let typed := shell.buffer.text
    let place := arrows.foldl (Arrow.move (matching history typed).length) 0
    let after (arrows : List Arrow) := (pressAll serve (arrows.map Arrow.key)).on shell
    (after arrows).1 = .ok ⟨⟩ ∧
      lineAt history typed place = some (after arrows).2.buffer.text ∧
      ∀ arrow, (after (arrows ++ [arrow])).2.buffer.text ≠ (after arrows).2.buffer.text →
        (after (arrows ++ [arrow])).2.buffer.atEnd = true := by
  intro history typed place after
  have ran (arrows : List Arrow) : after arrows = _ := on_arrows serve closed arrows
  refine ⟨by rw [ran], ?_, fun arrow changed => ?_⟩
  · rw [ran]
    exact lineAt_of_stands (stands_turns arrows (.resting resting rfl))
  · rw [ran, ran, List.foldl_append] at changed
    rw [ran, List.foldl_append]
    exact atEnd_of_replaces (replaces_turn arrow history _) changed

end Runs

/-- Someone typed a letter and went back in front of it. Two entries that start with it are the same, and
one is the letter alone. -/
def searching : Shell :=
  { bareShell with
    editor := { buffer := ⟨['c'], 0⟩ }
    session := { bareShell.session with
      history := { bareShell.session.history with
        entries := [⟨"cd", 1⟩, ⟨"ls", 2⟩, ⟨['c'], 3⟩, ⟨"cd", 4⟩] } } }

theorem searching_found :
    searching.session.pager.active = false ∧ searching.editor.position = none ∧
    matching searching.session.history searching.buffer.text = [3, 2, 0] ∧
    let after (arrows : List Arrow) := (pressAll Shell.serve (arrows.map Arrow.key)).on searching
    (after [.up, .up, .up, .up, .down]).1 = .ok ⟨⟩ ∧
      some ['c'] = some (after [.up, .up, .up, .up, .down]).2.buffer.text ∧
      ∀ arrow, (after [.up, .up, .up, .up, .down, arrow]).2.buffer.text ≠
        (after [.up, .up, .up, .up, .down]).2.buffer.text →
        (after [.up, .up, .up, .up, .down, arrow]).2.buffer.atEnd = true :=
  ⟨rfl, rfl, by decide, arrows_move_cursor Shell.serve rfl rfl [.up, .up, .up, .up, .down]⟩

end CommandShell.Proofs.HistoryCursor
