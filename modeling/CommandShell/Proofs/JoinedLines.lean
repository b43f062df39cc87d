import Mathlib.Data.List.TakeWhile
import CommandShell.Proofs.LineRuns
import CommandShell.Proofs.TokenSpans

/-! Two lines with a semicolon between them. Where the first one can be read on its own and does not end
with a backslash that takes the semicolon, each word, command and pipeline of it ends at the semicolon as it
does at the end of the line, and the second one is read as if it stood alone, farther to the right. -/

namespace CommandShell.Proofs.JoinedLines
open Scan ScanSteps LineMarks

def behind (offset : Nat) (state : State) : Text → State
  | [] => state
  | c :: rest => behind (offset + 1) (step false offset c state).2 rest

/-- The last character is a backslash outside of quotes that takes the next one with it. -/
def Dangles (line : Text) : Prop := behind 0 {} line = { literal := true }

def Joins (opened : Option OpenQuote) (offset : Nat) (t more : Text) : Prop :=
  ∀ text later : Text, word opened offset t = .ok (text, later) →
    word opened offset (t ++ ';' :: more) = .ok (text, later ++ ';' :: more) ∧
      behind (offset + text.length) {} later ≠ { literal := true }

theorem Joins.front {opened next : Option OpenQuote} {offset : Nat} {rest more : Text} (front : Text)
    (joins : Joins next (offset + front.length) rest more)
    (scan : ∀ rest, word opened offset (front ++ rest) =
      (word next (offset + front.length) rest).map (word.add front)) :
    Joins opened offset (front ++ rest) more := by
  intro text later read
  rw [scan] at read
  obtain ⟨⟨inner, later⟩, reads, same⟩ := exists_of_map_add read
  cases same
  obtain ⟨joined, ends⟩ := joins inner later reads
  refine ⟨?_, ?_⟩
  · rw [List.append_assoc, scan, joined]
    rfl
  · rwa [List.length_append, ← Nat.add_assoc]

private theorem word_joined {mode : Mode} {offset : Nat} {t : Text}
    (ends : behind offset { mode } t ≠ { literal := true }) (more : Text) :
    Joins mode.unclosed offset t more := by
  generalize same : mode.unclosed = opened
  fun_induction word opened offset t generalizing mode with
  | case1 offset =>
    obtain rfl := eq_plain same
    intro text later read
    cases read
    exact ⟨word_stops (by simp [Stops, operator?]) offset, ends⟩
  | case2 =>
    intro text later read
    cases read
  | case3 offset c rest stops =>
    obtain rfl := eq_plain same
    have stops (rest : Text) : Stops (c :: rest) := by simpa [Stops] using stops
    intro text later read
    rw [word_stops (stops rest)] at read
    cases read
    exact ⟨word_stops (stops _) offset, ends⟩
  | case4 offset c rest apart quote ih =>
    obtain rfl := eq_plain same
    refine Joins.front [c] ?_ (word_open quote offset)
    obtain rfl | rfl : c = '\'' ∨ c = '"' := by simpa [isQuote] using quote
    · exact @ih (.single offset) ends rfl
    · exact @ih (.double offset) ends rfl
  | case5 offset d rest apart no_quote ih =>
    obtain rfl := eq_plain same
    exact (@ih .plain ends rfl).front ['\\', d] (word_escape offset d)
  | case6 offset c rest last apart no_quote ih =>
    obtain rfl := eq_plain same
    -- A backslash that is the last character would take the semicolon; it is the one that is excluded.
    have ordinary : c ≠ '\\' := by
      intro backslash
      obtain rfl := nil_of_unpaired last backslash
      exact ends (by rw [backslash]; rfl)
    obtain ⟨no_space, no_sign⟩ : isSpace c = false ∧ operator? c = none := by simpa using apart
    have moves : step false offset c {} = (.word, {}) := by
      simp [isQuote] at no_quote
      simp [step, no_quote, ordinary, no_space, no_sign]
    rw [behind, moves] at ends
    exact (@ih .plain ends rfl).front [c] fun rest =>
      word_ordinary no_space no_sign (by simpa using no_quote) (fun same => absurd same ordinary) offset
  | case7 offset rest region ih =>
    refine .front [region.quote] (@ih .plain ?_ rfl) (word_close region offset)
    obtain ⟨opening, rfl, rfl⟩ | ⟨opening, rfl, rfl⟩ := eq_region same
    · exact ends
    · exact ends
  | case8 offset region d rest double outside ih =>
    obtain ⟨opening, rfl, rfl⟩ | ⟨opening, rfl, rfl⟩ := eq_region same
    · cases double
    · exact (ih ends rfl).front ['\\', d] (word_double_escape offset opening d)
  | case9 offset region d rest single outside ih =>
    obtain ⟨opening, rfl, rfl⟩ | ⟨opening, rfl, rfl⟩ := eq_region same
    · exact (ih ends rfl).front ['\\'] (word_single outside offset opening)
    · exact absurd rfl single
  | case10 offset region c rest last inside ih =>
    obtain ⟨opening, rfl, rfl⟩ | ⟨opening, rfl, rfl⟩ := eq_region same
    · have moves : step false offset c { mode := .single opening } =
          (.word, { mode := .single opening }) := if_neg inside
      rw [behind, moves] at ends
      exact (ih ends rfl).front [c] (word_single inside offset opening)
    · by_cases backslash : c = '\\'
      · obtain rfl := nil_of_unpaired last backslash
        intro text later read
        rw [word_double inside fun _ => rfl] at read
        cases read
      · have moves : step false offset c { mode := .double opening } =
            (.word, { mode := .double opening }) := by simp [step, inside, backslash]
        rw [behind, moves] at ends
        exact (ih ends rfl).front [c] fun rest =>
          word_double inside (fun same => absurd same backslash) offset opening

def join (first : Scan) (sign : Token) (second : Scan) : Scan :=
  ⟨first.tokens ++ sign :: second.tokens, second.unclosed⟩

private theorem ofText_joined {offset stop : Nat} {t : Text} (closed : (ofText offset t).unclosed = none)
    (ends : behind offset {} t ≠ { literal := true }) (length : offset + t.length = stop)
    (more : Text) :
    ofText offset (t ++ ';' :: more) =
      join (ofText offset t) ⟨.semicolon, [';'], stop⟩ (ofText (stop + 1) more) := by
  have no_arrow (rest : Text) (not_pair : rest.head? ≠ some '>') :
      (rest ++ ';' :: more).head? ≠ some '>' := by
    cases rest with
    | nil => simp
    | cons => exact not_pair
  fun_induction ofText offset t with
  | case1 offset =>
    obtain rfl : offset = stop := length
    exact ofText_sign (c := ';') rfl (fun arrow => by cases arrow) offset
  | case2 offset rest ih =>
    have joined := ih closed ends (by simp only [List.length_cons] at length; omega)
    rw [List.cons_append, List.cons_append, ofText_pair, joined]
    rfl
  | case3 offset c rest not_pair space ih =>
    rw [behind, step_blank space] at ends
    have joined := ih closed ends (by simp only [List.length_cons] at length; omega)
    rw [List.cons_append, ofText_space space, joined]
  | case4 offset c rest not_pair space kind sign ih =>
    rw [behind, step_sign sign] at ends
    have joined := ih closed ends (by simp only [List.length_cons] at length; omega)
    rw [List.cons_append, ofText_sign sign fun arrow =>
      no_arrow rest (TokenSpans.single_of_not_pair not_pair arrow), joined]
    rfl
  | case5 => cases closed
  | case6 offset c rest not_pair space apart text later read ih =>
    have no_space : isSpace c = false := by simpa using space
    obtain ⟨reads, ends⟩ := word_joined ends more text later read
    have whole : text.length + later.length = (c :: rest).length := by
      rw [← List.length_append, append_of_word read]
    have joined := ih closed ends (by omega)
    exact (ofText_word no_space apart reads).trans (by rw [joined]; rfl)

def tokenAt (place : Nat → Nat) (token : Token) : Token := { token with start := place token.start }

def diagnosticAt (place : Nat → Nat) (diagnostic : Diagnostic) : Diagnostic :=
  { diagnostic with position := place diagnostic.position }

/-- Nothing, or a semicolon and what follows it. -/
def Apart (tail : List Token) : Prop := ∀ token ∈ tail.head?, token.kind = .semicolon

theorem Apart.cases {tail : List Token} (apart : Apart tail) :
    tail = [] ∨ ∃ sign more, tail = sign :: more ∧ sign.kind = .semicolon := by
  cases tail with
  | nil => exact .inl rfl
  | cons sign more => exact .inr ⟨sign, more, rfl, apart sign rfl⟩

def placed (place : Nat → Nat) (tail : List Token) (reading : Reading α) : Reading α :=
  ⟨reading.result, reading.rest.map (tokenAt place) ++ tail, reading.diagnostics.map (diagnosticAt place)⟩

theorem kind_tokenAt (place : Nat → Nat) (token : Token) : (tokenAt place token).kind = token.kind := rfl

section Moved

variable (n : Nat)

def movedToken : Token → Token := tokenAt (n + ·)

def movedQuote (unclosed : OpenQuote) : OpenQuote := { unclosed with position := n + unclosed.position }

def movedDiagnostic : Diagnostic → Diagnostic := diagnosticAt (n + ·)

def movedScan (scan : Scan) : Scan :=
  ⟨scan.tokens.map (movedToken n), scan.unclosed.map (movedQuote n)⟩

theorem mapError_map {result : Except ε α} (f : α → β) (g : ε → ζ) :
    (result.map f).mapError g = (result.mapError g).map f := by
  cases result <;> rfl

private theorem word_moved (opened : Option OpenQuote) (offset : Nat) (t : Text) :
    word (opened.map (movedQuote n)) (n + offset) t = (word opened offset t).mapError (movedQuote n) := by
  fun_induction word opened offset t with
  | case1 => rfl
  | case2 => rfl
  | case3 offset c rest stops => exact word_stops (by simpa [Stops] using stops) _
  | case4 offset c rest apart quote ih =>
    rw [mapError_map, ← ih]
    exact word_open quote (n + offset) rest
  | case5 offset d rest apart no_quote ih =>
    rw [mapError_map, ← ih]
    exact word_escape (n + offset) d rest
  | case6 offset c rest last apart no_quote ih =>
    rw [mapError_map, ← ih]
    obtain ⟨no_space, no_sign⟩ : isSpace c = false ∧ operator? c = none := by simpa using apart
    exact word_ordinary no_space no_sign (by simpa using no_quote) (nil_of_unpaired last) (n + offset)
  | case7 offset rest region ih =>
    rw [mapError_map, ← ih]
    exact word_close (movedQuote n region) (n + offset) rest
  | case8 offset region d rest double outside ih =>
    rw [mapError_map, ← ih, Option.map_some, word_inside]
    simp [movedQuote, double, Nat.add_assoc]
  | case9 offset region d rest single outside ih =>
    rw [mapError_map, ← ih, Option.map_some, word_inside]
    simp [movedQuote, single, outside, Nat.add_assoc]
  | case10 offset region c rest last inside ih =>
    rw [mapError_map, ← ih, Option.map_some, word_inside]
    simp [movedQuote, inside, Nat.add_assoc]

theorem ofText_moved (offset : Nat) (t : Text) :
    ofText (n + offset) t = movedScan n (ofText offset t) := by
  fun_induction ofText offset t with
  | case1 offset => exact ofText_nil (n + offset)
  | case2 offset rest ih =>
    rw [ofText_pair, Nat.add_assoc, ih]
    rfl
  | case3 offset c rest not_pair space ih => rw [ofText_space space, Nat.add_assoc, ih]
  | case4 offset c rest not_pair space kind sign ih =>
    rw [ofText_sign sign (TokenSpans.single_of_not_pair not_pair), Nat.add_assoc, ih]
    rfl
  | case5 offset c rest not_pair space apart unclosed read =>
    have reads := word_moved n none offset (c :: rest)
    rw [read, Option.map_none] at reads
    rw [ofText_single (TokenSpans.single_of_not_pair not_pair), if_neg space, apart]
    simp only [reads]
    rfl
  | case6 offset c rest not_pair space apart text later read ih =>
    have reads := word_moved n none offset (c :: rest)
    rw [read] at reads
    rw [ofText_word (by simpa using space) apart reads, Nat.add_assoc, ih]
    rfl

end Moved

section Placed

variable {tail : List Token} (apart : Apart tail)

include apart

private theorem readRest_tail : Command.readRest tail = ⟨([], []), tail, []⟩ := by
  obtain rfl | ⟨sign, more, rfl, is_semicolon⟩ := apart.cases
  · rfl
  · have not_word : sign.kind ≠ .word := by simp [is_semicolon]
    rw [Command.readRest, if_neg not_word, is_semicolon]
    rfl

variable (place : Nat → Nat)

/-- A command ends at a semicolon as it does at the end of a line. -/
theorem readRest_placed (given : List Token) :
    Command.readRest (given.map (tokenAt place) ++ tail) = placed place tail (Command.readRest given) := by
  fun_induction Command.readRest given with
  | case1 => exact readRest_tail apart
  | case2 token rest is_word _ ih =>
    rw [List.map_cons, List.cons_append, Command.readRest, kind_tokenAt, if_pos is_word, ih]
    rfl
  | case3 token rest not_word other =>
    rw [List.map_cons, List.cons_append, Command.readRest, kind_tokenAt, if_neg not_word, other]
    rfl
  | case4 token not_word mode names =>
    rw [List.map_cons, List.cons_append, Command.readRest, kind_tokenAt, if_neg not_word, names]
    obtain rfl | ⟨sign, more, rfl, is_semicolon⟩ := apart.cases
    · rfl
    · have not_word : sign.kind ≠ .word := by simp [is_semicolon]
      simp only [List.map_nil, List.nil_append, if_neg not_word, readRest_tail apart]
      rfl
  | case5 token not_word mode names target later is_word _ ih =>
    rw [List.map_cons, List.cons_append, Command.readRest, kind_tokenAt, if_neg not_word, names]
    simp only [List.map_cons, List.cons_append, kind_tokenAt, if_pos is_word, ih]
    rfl
  | case6 token not_word mode names target later other _ ih =>
    rw [List.map_cons, List.cons_append] at ih
    rw [List.map_cons, List.cons_append, Command.readRest, kind_tokenAt, if_neg not_word, names]
    simp only [List.map_cons, List.cons_append, kind_tokenAt, if_neg other, ih]
    rfl

private theorem read_placed (word : Token) (given : List Token) :
    Command.read (tokenAt place word) (given.map (tokenAt place) ++ tail) =
      placed place tail (Command.read word given) := by
  rw [Command.read, readRest_placed apart]
  rfl

private theorem readLater_tail : Pipeline.readLater tail = ⟨[], tail, []⟩ := by
  rw [Pipeline.readLater.eq_def]
  obtain rfl | ⟨sign, more, rfl, is_semicolon⟩ := apart.cases
  · rfl
  · exact if_neg (by simp [is_semicolon])

private theorem readLater_placed (given : List Token) :
    Pipeline.readLater (given.map (tokenAt place) ++ tail) = placed place tail (Pipeline.readLater given) := by
  fun_induction Pipeline.readLater given with
  | case1 => exact readLater_tail apart
  | case2 pipe is_pipe =>
    rw [List.map_cons, List.cons_append, Pipeline.readLater.eq_def]
    simp only [kind_tokenAt, if_pos is_pipe]
    obtain rfl | ⟨sign, more, rfl, is_semicolon⟩ := apart.cases
    · rfl
    · have not_word : sign.kind ≠ .word := by simp [is_semicolon]
      simp only [List.map_nil, List.nil_append, if_neg not_word]
      rfl
  | case3 pipe is_pipe word later is_word command _ ih =>
    rw [List.map_cons, List.map_cons, List.cons_append, List.cons_append, Pipeline.readLater.eq_def]
    simp only [kind_tokenAt, if_pos is_pipe, if_pos is_word, read_placed apart]
    rw [show (placed place tail (Command.read word later)).rest = command.rest.map (tokenAt place) ++ tail
      from rfl, ih]
    simp only [placed, List.map_append]
    rfl
  | case4 pipe is_pipe word later other =>
    rw [List.map_cons, List.map_cons, List.cons_append, List.cons_append, Pipeline.readLater.eq_def]
    exact (if_pos is_pipe).trans (if_neg other)
  | case5 pipe rest other =>
    rw [List.map_cons, List.cons_append, Pipeline.readLater.eq_def]
    exact if_neg other

private theorem readBackground_placed (given : List Token) :
    Pipeline.readBackground (given.map (tokenAt place) ++ tail) =
      placed place tail (Pipeline.readBackground given) := by
  cases given with
  | nil =>
    obtain rfl | ⟨sign, more, rfl, is_semicolon⟩ := apart.cases
    · rfl
    · exact if_neg (by simp [is_semicolon])
  | cons token rest =>
    rw [List.map_cons, List.cons_append, Pipeline.readBackground, Pipeline.readBackground, kind_tokenAt]
    split
    · rfl
    · rfl

private theorem readPipeline_placed (word : Token) (given : List Token) :
    Pipeline.read (tokenAt place word) (given.map (tokenAt place) ++ tail) =
      placed place tail (Pipeline.read word given) := by
  simp only [Pipeline.read, read_placed apart, placed, readLater_placed apart, readBackground_placed apart,
    List.map_append]

/-- Nothing of a job reaches over a semicolon, however the tokens before it end. -/
theorem ofTokens_placed (given : List Token) :
    Job.ofTokens (given.map (tokenAt place) ++ tail) =
      ⟨(Job.ofTokens given).pipelines ++ (Job.ofTokens tail).pipelines,
        (Job.ofTokens given).diagnostics.map (diagnosticAt place) ++ (Job.ofTokens tail).diagnostics⟩ := by
  fun_induction Job.ofTokens given with
  | case1 => rfl
  | case2 token rest semicolon ih =>
    rw [List.map_cons, List.cons_append, Job.ofTokens, kind_tokenAt, if_pos semicolon, ih]
  | case3 token rest other is_word pipeline _ ih =>
    rw [List.map_cons, List.cons_append, Job.ofTokens, kind_tokenAt, if_neg other, if_pos is_word]
    simp only [readPipeline_placed apart]
    rw [show (placed place tail (Pipeline.read token rest)).rest = pipeline.rest.map (tokenAt place) ++ tail
      from rfl, ih]
    simp only [placed, List.cons_append, List.map_append, List.append_assoc]
    rfl
  | case4 token rest other not_word _ ih =>
    rw [List.map_cons, List.cons_append, Job.ofTokens, kind_tokenAt, if_neg other, if_neg not_word, ih]
    rfl

end Placed

/-- A job does not depend on where its tokens stand, but for the places that it reports. -/
theorem ofTokens_at (place : Nat → Nat) (given : List Token) :
    Job.ofTokens (given.map (tokenAt place)) =
      ⟨(Job.ofTokens given).pipelines, (Job.ofTokens given).diagnostics.map (diagnosticAt place)⟩ := by
  have nothing : Apart [] := nofun
  have whole := ofTokens_placed nothing place given
  have ended : Job.ofTokens [] = ⟨[], []⟩ := by rw [Job.ofTokens]
  rwa [ended, List.append_nil, List.append_nil, List.append_nil] at whole

private theorem ofTokens_joined {sign : Token} (is_semicolon : sign.kind = .semicolon) (n : Nat)
    (given more : List Token) :
    Job.ofTokens (given ++ sign :: more.map (movedToken n)) =
      ⟨(Job.ofTokens given).pipelines ++ (Job.ofTokens more).pipelines,
        (Job.ofTokens given).diagnostics ++
          (Job.ofTokens more).diagnostics.map (movedDiagnostic n)⟩ := by
  have closes : Apart (sign :: more.map (movedToken n)) := by
    rintro _ ⟨⟩
    exact is_semicolon
  have front := ofTokens_placed closes id given
  have behind : Job.ofTokens (more.map (movedToken n)) = _ := ofTokens_at (n + ·) more
  have passed (rest : List Token) : Job.ofTokens (sign :: rest) = Job.ofTokens rest := by
    rw [Job.ofTokens, if_pos is_semicolon]
  have same : tokenAt id = id := rfl
  have same' : diagnosticAt id = id := rfl
  rw [same, same', List.map_id, List.map_id, passed, behind] at front
  exact front

theorem closed_of_ofLine {line : Text} {job : Job} (read : Job.ofLine line = .ok job) :
    (ofText 0 line).unclosed = none ∧ job = Job.ofTokens (ofText 0 line).tokens := by
  simp only [Job.ofLine, Scan.ofLine] at read
  cases closed : (ofText 0 line).unclosed with
  | some unclosed =>
    rw [closed] at read
    cases read
  | none =>
    rw [closed] at read
    exact ⟨rfl, (Except.ok.inj read).symm⟩

theorem ofLine_error_iff {line : Text} {found : OpenQuote} :
    Job.ofLine line = .error found ↔ (Scan.ofLine line).unclosed = some found := by
  unfold Job.ofLine
  dsimp only
  split
  next opened opens => rw [opens, Except.error.injEq, Option.some.injEq]
  next closed => simp [closed]

/-- Behind the tokens of a line that is closed, a semicolon and the tokens of the second line. -/
theorem ofLine_scan_joined {first : Text} {job : Job} (read : Job.ofLine first = .ok job)
    (ends : ¬ Dangles first) (second : Text) :
    Scan.ofLine (first ++ ';' :: second) =
      join (Scan.ofLine first) ⟨.semicolon, [';'], first.length⟩
        (movedScan (first.length + 1) (Scan.ofLine second)) := by
  have joined := ofText_joined (closed_of_ofLine read).1 ends (Nat.zero_add first.length) second
  have moved := ofText_moved (first.length + 1) 0 second
  rw [Nat.add_zero] at moved
  rw [Scan.ofLine, joined, moved]
  rfl

/-- A semicolon between two lines makes one line of them that asks for what the first asks for and
then for what the second asks for. -/
theorem ofLine_joined {first second : Text} {job more : Job} (read : Job.ofLine first = .ok job)
    (reads : Job.ofLine second = .ok more) (ends : ¬ Dangles first) :
    Job.ofLine (first ++ ';' :: second) =
      .ok ⟨job.pipelines ++ more.pipelines,
        job.diagnostics ++ more.diagnostics.map (movedDiagnostic (first.length + 1))⟩ := by
  have joined := ofLine_scan_joined read ends second
  obtain ⟨-, rfl⟩ := closed_of_ofLine read
  obtain ⟨closed, rfl⟩ := closed_of_ofLine reads
  have closed : (Scan.ofLine second).unclosed = none := closed
  simp only [Job.ofLine, joined, join, movedScan, closed, Option.map_none, ofTokens_joined]
  rfl

/-- A quote that the second line leaves open is open in the one line, farther to the right. -/
theorem ofLine_joined_open {first second : Text} {job : Job} {found : OpenQuote}
    (read : Job.ofLine first = .ok job) (opens : Job.ofLine second = .error found)
    (ends : ¬ Dangles first) :
    Job.ofLine (first ++ ';' :: second) = .error (movedQuote (first.length + 1) found) := by
  have opened := ofLine_error_iff.mp opens
  rw [ofLine_error_iff, ofLine_scan_joined read ends second]
  simp only [join, movedScan, opened, Option.map_some]

/-- Reading is local to a semicolon. Whatever the first line leaves unfinished ends there, and the second
one is read as if it stood alone, with the places in it counted from the start of the whole. -/
theorem semicolon_separates {first : Text} {job : Job} (read : Job.ofLine first = .ok job)
    (ends : ¬ Dangles first) (second : Text) :
    Job.ofLine (first ++ ';' :: second) =
      match Job.ofLine second with
      | .ok more => .ok ⟨job.pipelines ++ more.pipelines,
          job.diagnostics ++ more.diagnostics.map (movedDiagnostic (first.length + 1))⟩
      | .error found => .error (movedQuote (first.length + 1) found) := by
  cases reads : Job.ofLine second with
  | ok more => exact ofLine_joined read reads ends
  | error found => exact ofLine_joined_open read reads ends

/-- A redirect without a file and a pipe to nothing, and a quote that is not closed. -/
theorem unfinished_lines_separate :
    ∃ job, Job.ofLine "ls | wc >" = .ok job ∧ ¬ Dangles "ls | wc >" ∧
      Job.ofLine ("ls | wc >" ++ ';' :: "& cat |") =
        .ok ⟨[⟨⟨"ls", [], []⟩, [⟨"wc", [], []⟩], false⟩, ⟨⟨"cat", [], []⟩, [], false⟩],
          [⟨.missingName ['>'], 8⟩, ⟨.unexpected ['&'], 10⟩, ⟨.missingCommand, 16⟩]⟩ ∧
      Job.ofLine ("ls | wc >" ++ ';' :: "cat 'a") = .error ⟨'\'', 14⟩ := by
  have read : Job.ofLine "ls | wc >" =
      .ok ⟨[⟨⟨"ls", [], []⟩, [⟨"wc", [], []⟩], false⟩], [⟨.missingName ['>'], 8⟩]⟩ :=
    LineRuns.ofLine_of_some (by decide +kernel)
  have reads : Job.ofLine "& cat |" =
      .ok ⟨[⟨⟨"cat", [], []⟩, [], false⟩], [⟨.unexpected ['&'], 0⟩, ⟨.missingCommand, 6⟩]⟩ :=
    LineRuns.ofLine_of_some (by decide +kernel)
  have opens : Job.ofLine "cat 'a" = .error ⟨'\'', 4⟩ :=
    ofLine_error_iff.mpr (by decide +kernel)
  have ends : ¬ Dangles "ls | wc >" := by
    unfold Dangles
    decide
  have together := semicolon_separates read ends "& cat |"
  have unclosed := semicolon_separates read ends "cat 'a"
  rw [reads] at together
  rw [opens] at unclosed
  exact ⟨_, read, ends, together, unclosed⟩

private theorem ofText_spaces {t : Text} (spaces : ∀ c ∈ t, isSpace c = true) (offset : Nat) :
    ofText offset t = ⟨[], none⟩ := by
  induction t generalizing offset with
  | nil => exact ofText_nil offset
  | cons c rest ih =>
    obtain ⟨space, spaces⟩ := List.forall_mem_cons.mp spaces
    rw [ofText_space space]
    exact ih spaces (offset + 1)

private theorem blank_of_trim {t : Text} (skipped : (Text.trim t).isEmpty = true) :
    ∀ c ∈ t, Text.isBlank c = true := by
  have ended : (Text.trimStart t).reverse.dropWhile Text.isBlank = [] :=
    List.reverse_eq_nil_iff.mp (List.isEmpty_iff.mp skipped)
  have blanks := List.dropWhile_eq_nil_iff.mp ended
  have started : Text.trimStart t = [] := by
    cases front : Text.trimStart t with
    | nil => rfl
    | cons c rest =>
      have sharp : Text.isBlank c = false := by
        have head := List.head?_dropWhile_not Text.isBlank t
        rw [show t.dropWhile Text.isBlank = c :: rest from front] at head
        simpa using head
      have blank : Text.isBlank c = true := blanks c (by simp [front])
      cases sharp.symm.trans blank
  exact List.dropWhile_eq_nil_iff.mp started

private theorem trim_semicolon (first second : Text) :
    (Text.trim (first ++ ';' :: second)).isEmpty = false := by
  apply Bool.eq_false_iff.mpr
  intro skipped
  have blank := blank_of_trim skipped ';' (by simp)
  cases blank

/-- What is skipped as blank separates words and is none. -/
def SkipsNothing (line : Text) : Prop :=
  (Text.trim line).isEmpty = true → ∀ c ∈ line, isSpace c = true

theorem commandsOf_read {line : Text} {job : Job} (read : Job.ofLine line = .ok job)
    (skips : SkipsNothing line) : LineRuns.commandsOf line = LineRuns.heads job := by
  unfold LineRuns.commandsOf
  split
  next skipped =>
    obtain ⟨-, rfl⟩ := closed_of_ofLine read
    rw [ofText_spaces (skips skipped), Job.ofTokens]
    rfl
  next => rw [read]

theorem commandsOf_joined {first second : Text} {job more : Job} (read : Job.ofLine first = .ok job)
    (reads : Job.ofLine second = .ok more) (ends : ¬ Dangles first) :
    LineRuns.commandsOf (first ++ ';' :: second) = LineRuns.heads job ++ LineRuns.heads more := by
  rw [LineRuns.commandsOf, if_neg (by simp [trim_semicolon]), ofLine_joined read reads ends]
  simp only [LineRuns.heads, List.map_append]

end CommandShell.Proofs.JoinedLines
