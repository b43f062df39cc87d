import CommandShell.Proofs.ScanSteps

/-! One pass over a whole line, with the quoting carried along. It sorts the characters into words,
blanks and operators without knowing where tokens begin, and it says whether a region of quotes is
open at the end. -/

namespace CommandShell.Proofs.LineMarks
open Scan ScanSteps

inductive Mark
  | word
  | blank
  | operator (kind : TokenKind)
  deriving DecidableEq

/-- Outside of quotes, or in a region with the offset of the quote that opened it. -/
inductive Mode
  | plain
  | single (opening : Nat)
  | double (opening : Nat)
  deriving DecidableEq

def Mode.unclosed : Mode → Option OpenQuote
  | plain => none
  | single opening => some ⟨'\'', opening⟩
  | double opening => some ⟨'"', opening⟩

theorem eq_plain {mode : Mode} (closed : mode.unclosed = none) : mode = .plain := by
  cases mode with
  | plain => rfl
  | single | double => cases closed

theorem eq_region {mode : Mode} {region : OpenQuote} (opened : mode.unclosed = some region) :
    (∃ opening, mode = .single opening ∧ region = ⟨'\'', opening⟩) ∨
      ∃ opening, mode = .double opening ∧ region = ⟨'"', opening⟩ := by
  cases mode with
  | plain => cases opened
  | single opening => exact .inl ⟨opening, rfl, (Option.some.inj opened).symm⟩
  | double opening => exact .inr ⟨opening, rfl, (Option.some.inj opened).symm⟩

/-- What is known before a character. A literal one means itself, whatever it is. -/
structure State where
  mode : Mode := .plain
  literal : Bool := false
  deriving DecidableEq

/-- The mark of a character and the state behind it. A backslash makes the next character literal,
unless it is the last one of the line. -/
def step (last : Bool) (offset : Nat) (c : Char) (state : State) : Mark × State :=
  if state.literal then (.word, { mode := state.mode })
  else match state.mode with
    | .plain =>
      if c = '\'' then (.word, { mode := .single offset })
      else if c = '"' then (.word, { mode := .double offset })
      else if c = '\\' then (.word, { literal := !last })
      else if isSpace c then (.blank, {})
      else match operator? c with
        | some kind => (.operator kind, {})
        | none => (.word, {})
    | .single opening =>
      if c = '\'' then (.word, {}) else (.word, { mode := .single opening })
    | .double opening =>
      if c = '"' then (.word, {})
      else (.word, { mode := .double opening, literal := c = '\\' && !last })

def run (offset : Nat) (state : State) : Text → List Mark × State
  | [] => ([], state)
  | c :: rest =>
    let front := step rest.isEmpty offset c state
    let more := run (offset + 1) front.2 rest
    (front.1 :: more.1, more.2)

def marks (line : Text) : List Mark := (run 0 {} line).1

def unclosed (line : Text) : Option OpenQuote := (run 0 {} line).2.mode.unclosed

private theorem length_run (offset : Nat) (state : State) (t : Text) :
    (run offset state t).1.length = t.length := by
  induction t generalizing offset state with
  | nil => rfl
  | cons c t ih => simp [run, ih]

theorem length_marks (line : Text) : (marks line).length = line.length := length_run 0 {} line

def after (front : List Mark) (result : List Mark × State) : List Mark × State :=
  (front ++ result.1, result.2)

theorem run_step {offset : Nat} {state next : State} {c : Char} {rest : Text} {found : Mark}
    (moves : step rest.isEmpty offset c state = (found, next)) :
    run offset state (c :: rest) = after [found] (run (offset + 1) next rest) := by
  rw [run, moves]
  rfl

private theorem run_escape {offset : Nat} {state : State} {mode : Mode} {c d : Char} {rest : Text}
    (moves : step false offset c state = (.word, { mode, literal := true })) :
    run offset state (c :: d :: rest) = after [.word, .word] (run (offset + 2) { mode } rest) := by
  have goes_on : step (d :: rest).isEmpty offset c state = (.word, { mode, literal := true }) := moves
  rw [run_step goes_on]
  rfl

/-- Where a scanner of words may be after a step: in the region it was in, outside of quotes, or in
a region that begins at the step. -/
def Mode.Follows (next mode : Mode) (offset : Nat) : Prop :=
  next.unclosed = mode.unclosed ∨ next.unclosed = none ∨
    ∃ quote, next.unclosed = some ⟨quote, offset⟩

/-- A step of the scanner of words is one step of the pass, or two where a backslash takes a
character with it. -/
structure Moves (mode : Mode) (offset : Nat) (t front later : Text) (next : Mode) : Prop where
  nonempty : front ≠ []
  split : t = front ++ later
  follows : next.Follows mode offset
  scan : word mode.unclosed offset t =
    (word next.unclosed (offset + front.length) later).map (word.add front)
  pass : run offset { mode } t =
    after (List.replicate front.length .word) (run (offset + front.length) { mode := next } later)

theorem Moves.length {mode next : Mode} {offset : Nat} {t front later : Text}
    (moves : Moves mode offset t front later next) :
    0 < front.length ∧ t.length = front.length + later.length := by
  have split := congrArg List.length moves.split
  exact ⟨List.length_pos_iff.mpr moves.nonempty, by simpa using split⟩

private theorem moves_plain {offset : Nat} {c : Char} {rest : Text} (no_space : isSpace c = false)
    (no_sign : operator? c = none) : ∃ front later next, Moves .plain offset (c :: rest) front later next := by
  by_cases single : c = '\''
  · subst single
    exact ⟨['\''], rest, .single offset, by simp, rfl, .inr (.inr ⟨_, rfl⟩),
      word_open rfl offset rest, run_step rfl⟩
  by_cases double : c = '"'
  · subst double
    exact ⟨['"'], rest, .double offset, by simp, rfl, .inr (.inr ⟨_, rfl⟩),
      word_open rfl offset rest, run_step rfl⟩
  have no_quote : isQuote c = false := by simp [isQuote, single, double]
  by_cases last : c = '\\' → rest = []
  · refine ⟨[c], rest, .plain, by simp, rfl, .inl rfl,
      word_ordinary no_space no_sign no_quote last offset, run_step ?_⟩
    by_cases backslash : c = '\\'
    · simp [step, backslash, last backslash]
    · simp [step, single, double, backslash, no_space, no_sign]
  · obtain ⟨rfl, goes_on⟩ := Classical.not_imp.mp last
    obtain ⟨d, more, rfl⟩ := List.exists_cons_of_ne_nil goes_on
    refine ⟨['\\', d], more, .plain, by simp, rfl, .inl rfl, word_escape offset d more, ?_⟩
    rw [run_escape (show step false offset '\\' {} = (.word, { literal := true }) from rfl)]
    rfl

private theorem moves_single (opening offset : Nat) (c : Char) (rest : Text) :
    ∃ front later next, Moves (.single opening) offset (c :: rest) front later next := by
  by_cases closes : c = '\''
  · subst closes
    exact ⟨['\''], rest, .plain, by simp, rfl, .inr (.inl rfl),
      word_close ⟨'\'', opening⟩ offset rest, run_step rfl⟩
  · exact ⟨[c], rest, .single opening, by simp, rfl, .inl rfl, word_single closes offset opening rest,
      run_step (by simp [step, closes])⟩

private theorem moves_double (opening offset : Nat) (c : Char) (rest : Text) :
    ∃ front later next, Moves (.double opening) offset (c :: rest) front later next := by
  by_cases closes : c = '"'
  · subst closes
    exact ⟨['"'], rest, .plain, by simp, rfl, .inr (.inl rfl),
      word_close ⟨'"', opening⟩ offset rest, run_step rfl⟩
  by_cases last : c = '\\' → rest = []
  · refine ⟨[c], rest, .double opening, by simp, rfl, .inl rfl,
      word_double closes last offset opening, run_step ?_⟩
    by_cases backslash : c = '\\'
    · simp [step, backslash, last backslash]
    · simp [step, closes, backslash]
  · obtain ⟨rfl, goes_on⟩ := Classical.not_imp.mp last
    obtain ⟨d, more, rfl⟩ := List.exists_cons_of_ne_nil goes_on
    refine ⟨['\\', d], more, .double opening, by simp, rfl, .inl rfl,
      word_double_escape offset opening d more, ?_⟩
    rw [run_escape (show step false offset '\\' { mode := .double opening } =
      (.word, { mode := .double opening, literal := true }) from rfl)]
    rfl

private theorem exists_moves (mode : Mode) (offset : Nat) (c : Char) (rest : Text)
    (inside : mode = .plain → isSpace c = false ∧ operator? c = none) :
    ∃ front later next, Moves mode offset (c :: rest) front later next := by
  cases mode with
  | plain => exact moves_plain (inside rfl).1 (inside rfl).2
  | single opening => exact moves_single opening offset c rest
  | double opening => exact moves_double opening offset c rest

private theorem after_replicate (first second : Nat) (result : List Mark × State) :
    after (List.replicate first .word) (after (List.replicate second .word) result) =
      after (List.replicate (first + second) .word) result := by
  simp [after, ← List.replicate_append_replicate]

/-- A word that was read is a run of word characters, and the pass stands outside of quotes behind
it, at something that is no part of a word. -/
theorem run_of_word {mode : Mode} {offset : Nat} {t text rest : Text}
    (read : word mode.unclosed offset t = .ok (text, rest)) :
    run offset { mode } t =
        after (List.replicate text.length .word) (run (offset + text.length) {} rest) ∧
      Stops rest := by
  cases whole : t with
  | nil =>
    subst whole
    cases mode <;> cases read
    exact ⟨rfl, by simp [Stops]⟩
  | cons c behind =>
    rw [whole] at read
    by_cases ends : mode = .plain ∧ Stops (c :: behind)
    · obtain ⟨rfl, stops⟩ := ends
      have same := Except.ok.inj (read.symm.trans (word_stops stops offset))
      obtain ⟨rfl, rfl⟩ := Prod.mk.inj same
      exact ⟨rfl, stops⟩
    have inside : mode = .plain → isSpace c = false ∧ operator? c = none := by
      rintro rfl
      simpa [Stops] using ends
    -- One step may take two characters, so the recursion is on the length and not on the text.
    obtain ⟨front, later, next, moves⟩ := exists_moves mode offset c behind inside
    rw [moves.scan] at read
    obtain ⟨⟨more, rest⟩, reads, same⟩ := exists_of_map_add read
    obtain ⟨rfl, rfl⟩ := Prod.mk.inj same
    obtain ⟨passed, stops⟩ := run_of_word reads
    refine ⟨?_, stops⟩
    rw [moves.pass, passed, after_replicate, List.length_append, Nat.add_assoc]
termination_by t.length
decreasing_by
  have shorter := moves.length
  simp only [whole]
  omega

/-- A word that is not closed is a run of word characters up to the end of the line. Its region is the
one that was open, or it begins inside the word. -/
theorem run_of_unclosed {mode : Mode} {offset : Nat} {t : Text} {found : OpenQuote}
    (read : word mode.unclosed offset t = .error found) :
    (run offset { mode } t).1 = List.replicate t.length .word ∧
      (run offset { mode } t).2.mode.unclosed = some found ∧
      (mode.unclosed = some found ∨ offset ≤ found.position ∧ found.position < offset + t.length) := by
  cases whole : t with
  | nil =>
    subst whole
    cases mode <;> cases read
    all_goals exact ⟨rfl, rfl, .inl rfl⟩
  | cons c behind =>
    rw [whole] at read
    have inside : mode = .plain → isSpace c = false ∧ operator? c = none := by
      rintro rfl
      by_cases stops : Stops (c :: behind)
      · cases read.symm.trans (word_stops stops offset)
      · simpa [Stops] using stops
    obtain ⟨front, later, next, moves⟩ := exists_moves mode offset c behind inside
    have length := moves.length
    have reads : word next.unclosed (offset + front.length) later = .error found := by
      have scan := moves.scan
      rw [read] at scan
      cases result : word next.unclosed (offset + front.length) later with
      | ok inner => rw [result] at scan; cases scan
      | error other => rw [result] at scan; cases scan; rfl
    obtain ⟨passed, ends, opened⟩ := run_of_unclosed reads
    refine ⟨?_, ?_, ?_⟩
    · rw [moves.pass, after, passed, List.replicate_append_replicate, ← length.2]
    · rw [moves.pass]
      exact ends
    · rcases opened with before | ⟨lower, upper⟩
      · rcases moves.follows with same | closed | ⟨quote, begins⟩
        · exact .inl (same.symm.trans before)
        · cases closed.symm.trans before
        · obtain rfl := Option.some.inj (begins.symm.trans before)
          right
          simp only
          omega
      · right
        omega
termination_by t.length
decreasing_by
  simp only [whole]
  omega

private theorem ne_of_ends {c : Char} (ends : isSpace c = true ∨ (operator? c).isSome = true) :
    c ≠ '\'' ∧ c ≠ '"' ∧ c ≠ '\\' := by
  refine ⟨?_, ?_, ?_⟩ <;> rintro rfl <;> rcases ends with space | sign <;> contradiction

theorem step_blank {c : Char} (space : isSpace c = true) (last : Bool) (offset : Nat) :
    step last offset c {} = (.blank, {}) := by
  obtain ⟨no_single, no_double, no_backslash⟩ := ne_of_ends (.inl space)
  simp [step, no_single, no_double, no_backslash, space]

theorem step_sign {c : Char} {kind : TokenKind} (sign : operator? c = some kind) (last : Bool)
    (offset : Nat) : step last offset c {} = (.operator kind, {}) := by
  obtain ⟨no_single, no_double, no_backslash⟩ := ne_of_ends (.inr (Option.isSome_of_mem sign))
  simp [step, no_single, no_double, no_backslash, isSpace_of_operator? sign, sign]

theorem run_blank {c : Char} (space : isSpace c = true) (offset : Nat) (rest : Text) :
    run offset {} (c :: rest) = after [.blank] (run (offset + 1) {} rest) :=
  run_step (step_blank space rest.isEmpty offset)

theorem run_sign {c : Char} {kind : TokenKind} (sign : operator? c = some kind) (offset : Nat)
    (rest : Text) :
    run offset {} (c :: rest) = after [.operator kind] (run (offset + 1) {} rest) :=
  run_step (step_sign sign rest.isEmpty offset)

theorem run_pair (offset : Nat) (rest : Text) :
    run offset {} ('>' :: '>' :: rest) =
      after [.operator .writeTo, .operator .writeTo] (run (offset + 2) {} rest) := by
  rw [run_sign rfl, run_sign rfl]
  rfl

def Mark.Suits (c : Char) : Mark → Prop
  | word => True
  | blank => isSpace c = true
  | operator kind => operator? c = some kind

private theorem step_suits (last : Bool) (offset : Nat) (c : Char) (state : State) :
    (step last offset c state).1.Suits c := by
  fun_cases step last offset c state <;> trivial

theorem eq_arrow {c : Char} (sign : operator? c = some .writeTo) : c = '>' := by
  unfold operator? at sign
  split at sign <;> first | rfl | cases sign

theorem head_of_arrow {offset : Nat} {t : Text}
    (arrow : (run offset {} t).1[0]? = some (.operator .writeTo)) : t.head? = some '>' := by
  cases t with
  | nil => cases arrow
  | cons c rest =>
    have found : (step rest.isEmpty offset c {}).1 = .operator .writeTo := by simpa [run] using arrow
    have suits := step_suits rest.isEmpty offset c {}
    rw [found] at suits
    rw [eq_arrow suits]
    rfl

theorem head_of_stops {offset : Nat} {t : Text} (stops : Stops t) :
    (run offset {} t).1[0]? ≠ some .word := by
  cases t with
  | nil => simp [run]
  | cons c rest =>
    rcases stops c rfl with space | sign
    · simp [run, step_blank space]
    · obtain ⟨kind, sign⟩ := Option.isSome_iff_exists.mp sign
      simp [run, step_sign sign]

theorem isSpace_of_blank {offset i : Nat} {state : State} {t : Text} {c : Char}
    (here : t[i]? = some c) (blank : (run offset state t).1[i]? = some .blank) : isSpace c = true := by
  induction t generalizing offset state i with
  | nil => cases here
  | cons d rest ih =>
    cases i with
    | succ i => exact ih here blank
    | zero =>
      obtain rfl := Option.some.inj here
      have found : (step rest.isEmpty offset d state).1 = .blank := by simpa [run] using blank
      have suits := step_suits rest.isEmpty offset d state
      rwa [found] at suits

end CommandShell.Proofs.LineMarks
