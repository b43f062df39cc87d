import CommandShell.Proofs.JobGrammar

/-! Writing a job as text. Every word is written between single quotes, so that whatever it holds is
kept, and the reader gives back exactly the pipelines that were written. -/

namespace CommandShell.Proofs.JobWriting
open Scan ScanSteps

/-- A word between single quotes. A single quote inside it is written outside of them, escaped. -/
def escaped (word : Text) : Text :=
  word.flatMap fun c => if c = '\'' then ['\'', '\\', '\'', '\''] else [c]

def quoted (word : Text) : Text := '\'' :: (escaped word ++ ['\''])

/-- Blank text, for the places where a writer is free. -/
def Gap : Type := { text : Text // ∀ c ∈ text, isSpace c = true }

def writeRedirect (gap : Gap) (redirect : Redirect) : Text :=
  redirect.mode.symbol ++ gap.val ++ quoted redirect.target

def writeCommand (gap : Gap) (command : Command) : Text :=
  Text.join " " (command.words.map quoted ++ command.redirects.map (writeRedirect gap))

def writePipeline (gap : Gap) (pipeline : Pipeline) : Text :=
  Text.join " | " (pipeline.commands.map (writeCommand gap)) ++
    if pipeline.background then [' ', '&'] else [' ', ';']

/-- Pipelines one behind the other. One gap stands behind the signs of redirects, the other between
pipelines; either may be empty. -/
def write (gap between : Gap) (pipelines : List Pipeline) : Text :=
  Text.join between.val (pipelines.map (writePipeline gap))

theorem join_cons (sep first : Text) (rest : List Text) :
    Text.join sep (first :: rest) = first ++ rest.flatMap (sep ++ ·) := by
  induction rest generalizing first with
  | nil => simp [Text.join]
  | cons second rest ih => simpa [Text.join] using ih second

@[simp] theorem escaped_cons (c : Char) (word : Text) :
    escaped (c :: word) = (if c = '\'' then ['\'', '\\', '\'', '\''] else [c]) ++ escaped word := rfl

private theorem meaning_escaped (word rest : Text) :
    Word.meaningFrom .single (escaped word ++ '\'' :: rest) = word ++ Word.meaningFrom .bare rest := by
  induction word with
  | nil => simp [escaped, Word.meaningFrom]
  | cons c word ih =>
    by_cases quote : c = '\''
    · subst quote
      simp [Word.meaningFrom, ih]
    · simp [quote, Word.meaningFrom, ih]

private theorem meaning_quoted (word : Text) : Word.meaning (quoted word) = word := by
  have inside := meaning_escaped word []
  simpa [Word.meaning, quoted, Word.meaningFrom] using inside

private theorem word_escaped (content : Text) {rest : Text} (stops : Stops rest) (offset position : Nat) :
    word (some ⟨'\'', position⟩) offset (escaped content ++ '\'' :: rest) =
      .ok (escaped content ++ ['\''], rest) := by
  induction content generalizing offset position with
  | nil =>
    rw [escaped, List.flatMap_nil, List.nil_append, word_close ⟨'\'', position⟩,
      word_stops stops]
    rfl
  | cons c content ih =>
    by_cases quote : c = '\''
    · subst quote
      simp only [escaped_cons, if_true, List.cons_append, List.nil_append]
      rw [word_close ⟨'\'', position⟩, word_escape,
        word_open (by decide), ih]
      rfl
    · simp only [escaped_cons, if_neg quote, List.cons_append, List.nil_append]
      rw [word_single quote, ih]
      rfl

private theorem word_quoted (content : Text) {rest : Text} (stops : Stops rest) (offset : Nat) :
    word none offset (quoted content ++ rest) = .ok (quoted content, rest) := by
  have inside := word_escaped content stops (offset + 1) offset
  rw [quoted, List.cons_append, List.append_assoc, List.singleton_append,
    word_open (by decide), inside]
  rfl

def prepend (tokens : List Token) (scan : Scan) : Scan := { scan with tokens := tokens ++ scan.tokens }

/-- A text spells tokens if a scan finds such tokens in it wherever it stands, and then goes on with
the text behind it. What may stand behind it is limited for texts that could run on. -/
def Spells (behind : Text → Prop) (text : Text) (content : List Token → Prop) : Prop :=
  ∀ offset rest, behind rest → ∃ tokens, content tokens ∧
    ofText offset (text ++ rest) = prepend tokens (ofText (offset + text.length) rest)

def Anything : Text → Prop := fun _ => True

def Both (first second : List Token → Prop) : List Token → Prop :=
  fun tokens => ∃ front back, tokens = front ++ back ∧ first front ∧ second back

theorem Spells.append {behind between : Text → Prop} {first second : Text}
    {content more : List Token → Prop} (front : Spells between first content)
    (back : Spells behind second more) (meets : ∀ rest, behind rest → between (second ++ rest)) :
    Spells behind (first ++ second) (Both content more) := by
  intro offset rest follows
  obtain ⟨tokens, holds, read⟩ := front offset (second ++ rest) (meets rest follows)
  obtain ⟨others, also, readMore⟩ := back (offset + first.length) rest follows
  refine ⟨tokens ++ others, ⟨tokens, others, rfl, holds, also⟩, ?_⟩
  rw [List.append_assoc, read, readMore, List.length_append, Nat.add_assoc]
  simp [prepend]

theorem Spells.imp {behind : Text → Prop} {text : Text} {content weaker : List Token → Prop}
    (spells : Spells behind text content) (implies : ∀ tokens, content tokens → weaker tokens) :
    Spells behind text weaker := by
  intro offset rest follows
  obtain ⟨tokens, holds, read⟩ := spells offset rest follows
  exact ⟨tokens, implies tokens holds, read⟩

theorem spells_blank (gap : Gap) : Spells Anything gap.val (· = []) := by
  obtain ⟨text, blank⟩ := gap
  intro offset rest _
  refine ⟨[], rfl, ?_⟩
  induction text generalizing offset with
  | nil => rfl
  | cons c text ih =>
    have later := ih (fun d member => blank d (by simp [member])) (offset + 1)
    rw [List.cons_append, ofText_space (blank c (by simp)), later, List.length_cons]
    simp [Nat.add_assoc, Nat.add_comm 1]

theorem spells_quoted (content : Text) :
    Spells Stops (quoted content)
      (fun tokens => ∃ token, tokens = [token] ∧ token.kind = .word ∧
        Word.meaning token.text = content) := by
  intro offset rest stops
  refine ⟨[⟨.word, quoted content, offset⟩], ⟨_, rfl, rfl, meaning_quoted content⟩, ?_⟩
  exact ofText_word rfl rfl (word_quoted content stops offset)

/-- A sign. An arrow must not meet another one, which would make it the sign for appending. -/
theorem spells_sign {c : Char} {kind : TokenKind} (sign : operator? c = some kind)
    {behind : Text → Prop} (single : ∀ rest, behind rest → c = '>' → rest.head? ≠ some '>') :
    Spells behind [c] (fun tokens => ∃ token, tokens = [token] ∧ token.kind = kind) := by
  intro offset rest follows
  exact ⟨[⟨kind, [c], offset⟩], ⟨_, rfl, rfl⟩,
    ofText_sign sign (single rest follows) offset⟩

def NoArrow (rest : Text) : Prop := rest.head? ≠ some '>'

private theorem spells_symbol (mode : RedirectMode) :
    Spells NoArrow mode.symbol
      (fun tokens => ∃ token, tokens = [token] ∧ RedirectMode.ofKind? token.kind = some mode) := by
  have single {c : Char} {kind : TokenKind} (sign : operator? c = some kind)
      (names : RedirectMode.ofKind? kind = some mode) :
      Spells NoArrow [c]
        (fun tokens => ∃ token, tokens = [token] ∧ RedirectMode.ofKind? token.kind = some mode) := by
    apply (spells_sign sign fun _ no_arrow _ => no_arrow).imp
    rintro tokens ⟨token, same, is_kind⟩
    exact ⟨token, same, is_kind ▸ names⟩
  cases mode with
  | read => exact single rfl rfl
  | write => exact single rfl rfl
  | append =>
    intro offset rest _
    exact ⟨[⟨.appendTo, ['>', '>'], offset⟩], ⟨_, rfl, rfl⟩, ofText_pair offset rest⟩

private theorem noArrow_gap (gap : Gap) (content rest : Text) :
    NoArrow (gap.val ++ quoted content ++ rest) := by
  obtain ⟨text, blank⟩ := gap
  cases text with
  | nil => simp [NoArrow, quoted]
  | cons c text =>
    have space := blank c (by simp)
    intro arrow
    obtain rfl : c = '>' := by simpa using arrow
    cases space

private theorem spells_redirect (gap : Gap) (redirect : Redirect) :
    Spells Stops (writeRedirect gap redirect)
      (fun tokens => ∃ sign target, tokens = [sign, target] ∧
        RedirectMode.ofKind? sign.kind = some redirect.mode ∧ target.kind = .word ∧
        Word.meaning target.text = redirect.target) := by
  have target := (spells_blank gap).append (spells_quoted redirect.target) fun _ _ => trivial
  have whole := (spells_symbol redirect.mode).append target fun rest _ =>
    noArrow_gap gap redirect.target rest
  rw [writeRedirect, List.append_assoc]
  apply whole.imp
  rintro tokens ⟨_, _, rfl, ⟨sign, rfl, names⟩, _, _, rfl, rfl, word, rfl, is_word, means⟩
  exact ⟨sign, word, rfl, names, is_word, means⟩

def space : Gap := ⟨[' '], by simp [isSpace]⟩

def spaced (pieces : List Text) : Text := pieces.flatMap (' ' :: ·)

theorem stops_space (rest : Text) : Stops (' ' :: rest) := by
  intro c member
  obtain rfl := Option.some.inj member
  exact .inl rfl

theorem stops_spaced (pieces : List Text) {rest : Text} (stops : Stops rest) :
    Stops (spaced pieces ++ rest) := by
  cases pieces with
  | nil => exact stops
  | cons piece pieces => exact stops_space _

theorem spells_spaced {behind between : Text → Prop} {piece : Text} {pieces : List Text}
    {content more : List Token → Prop} (front : Spells between piece content)
    (back : Spells behind (spaced pieces) more)
    (meets : ∀ rest, behind rest → between (spaced pieces ++ rest)) :
    Spells behind (spaced (piece :: pieces)) (Both content more) := by
  have whole := (spells_blank space).append (front.append back meets) fun _ _ => trivial
  apply whole.imp
  rintro tokens ⟨_, _, rfl, rfl, both⟩
  exact both

private theorem spells_redirects (gap : Gap) (redirects : List Redirect) :
    Spells Stops (spaced (redirects.map (writeRedirect gap))) (JobGrammar.Tail · [] redirects) := by
  induction redirects with
  | nil => exact fun offset rest _ => ⟨[], .nil, rfl⟩
  | cons redirect redirects ih =>
    apply (spells_spaced (spells_redirect gap redirect) ih fun _ => stops_spaced _).imp
    rintro tokens ⟨_, rest, rfl, ⟨sign, target, rfl, names, is_word, means⟩, tail⟩
    have whole := JobGrammar.Tail.redirect names is_word tail
    rwa [means] at whole

private theorem spells_tail (gap : Gap) (arguments : List Text) (redirects : List Redirect) :
    Spells Stops (spaced (arguments.map quoted ++ redirects.map (writeRedirect gap)))
      (JobGrammar.Tail · arguments redirects) := by
  induction arguments with
  | nil => exact spells_redirects gap redirects
  | cons argument arguments ih =>
    apply (spells_spaced (spells_quoted argument) ih fun _ => stops_spaced _).imp
    rintro tokens ⟨_, rest, rfl, ⟨word, rfl, is_word, means⟩, tail⟩
    have whole := JobGrammar.Tail.word is_word tail
    rwa [means] at whole

private theorem spells_command (gap : Gap) (command : Command) :
    Spells Stops (writeCommand gap command) (JobGrammar.Single · command) := by
  have tail := spells_tail gap command.arguments command.redirects
  have whole := (spells_quoted command.program).append tail fun _ => stops_spaced _
  rw [writeCommand, Command.words, List.map_cons, List.cons_append, join_cons]
  apply whole.imp
  rintro tokens ⟨_, rest, rfl, ⟨word, rfl, is_word, means⟩, tail⟩
  have single := JobGrammar.Single.program is_word tail
  rwa [means] at single

private theorem join_cons_cons (sep first second : Text) (rest : List Text) :
    Text.join sep (first :: second :: rest) = first ++ (sep ++ Text.join sep (second :: rest)) := by
  simp [join_cons]

theorem spells_apart {c : Char} {kind : TokenKind} (sign : operator? c = some kind)
    (single : c ≠ '>') (gap : Gap) :
    Spells Anything (' ' :: c :: gap.val)
      (fun tokens => ∃ token, tokens = [token] ∧ token.kind = kind) := by
  have alone : Spells Anything [c] (fun tokens => ∃ token, tokens = [token] ∧ token.kind = kind) :=
    spells_sign sign fun _ _ arrow => absurd arrow single
  have whole := (spells_blank space).append
    (alone.append (spells_blank gap) fun _ _ => trivial) fun _ _ => trivial
  apply whole.imp
  rintro tokens ⟨_, _, rfl, rfl, _, _, rfl, ⟨token, rfl, is_kind⟩, rfl⟩
  exact ⟨token, rfl, is_kind⟩

private theorem spells_piped (gap : Gap) (head : Command) (later : List Command) :
    Spells Stops (Text.join " | " ((head :: later).map (writeCommand gap)))
      (JobGrammar.Piped · head later) := by
  induction later generalizing head with
  | nil =>
    rw [List.map_cons, List.map_nil, join_cons, List.flatMap_nil, List.append_nil]
    exact (spells_command gap head).imp fun tokens => .last
  | cons next later ih =>
    rw [List.map_cons, List.map_cons, join_cons_cons]
    have pipe := spells_apart (c := '|') rfl (by decide) space
    have behind := pipe.append (ih next) fun _ _ => trivial
    have whole := (spells_command gap head).append behind fun rest _ => stops_space _
    apply whole.imp
    rintro tokens ⟨given, _, rfl, single, _, rest, rfl, ⟨sign, rfl, is_pipe⟩, piped⟩
    exact .pipe single is_pipe piped

/-- A pipeline ends with its own sign, so that more of a job can follow it. -/
theorem spells_pipeline (gap after : Gap) (pipeline : Pipeline) :
    Spells Anything (writePipeline gap pipeline ++ after.val)
      (fun tokens => ∀ rest pipelines, JobGrammar.Sequence rest pipelines →
        JobGrammar.Sequence (tokens ++ rest) (pipeline :: pipelines)) := by
  obtain ⟨head, later, background⟩ := pipeline
  have piped := spells_piped gap head later
  rw [writePipeline, List.append_assoc]
  cases background with
  | false =>
    have whole := piped.append (spells_apart (c := ';') rfl (by decide) after) fun _ _ => stops_space _
    apply whole.imp
    rintro tokens ⟨given, _, rfl, piped, sign, rfl, is_semicolon⟩ rest pipelines sequence
    simpa using JobGrammar.Sequence.foreground piped is_semicolon sequence
  | true =>
    have whole := piped.append (spells_apart (c := '&') rfl (by decide) after) fun _ _ => stops_space _
    apply whole.imp
    rintro tokens ⟨given, _, rfl, piped, sign, rfl, is_background⟩ rest pipelines sequence
    simpa using JobGrammar.Sequence.background piped is_background sequence

private theorem spells_job (gap between : Gap) (pipelines : List Pipeline) :
    Spells Anything (write gap between pipelines) (JobGrammar.Sequence · pipelines) := by
  induction pipelines with
  | nil => exact fun offset rest _ => ⟨[], .empty, rfl⟩
  | cons first pipelines ih =>
    cases pipelines with
    | nil =>
      have only := spells_pipeline gap ⟨[], by simp⟩ first
      rw [List.append_nil] at only
      rw [write, List.map_cons, List.map_nil, join_cons, List.flatMap_nil, List.append_nil]
      apply only.imp
      intro tokens goes_on
      simpa using goes_on [] [] .empty
    | cons second pipelines =>
      rw [write, List.map_cons, List.map_cons, join_cons_cons, ← List.append_assoc]
      have whole := (spells_pipeline gap between first).append ih fun _ _ => trivial
      apply whole.imp
      rintro tokens ⟨given, rest, rfl, goes_on, sequence⟩
      exact goes_on rest _ sequence

/-- Every job can be written and is read back as it was: between single quotes a word keeps empty
text, spaces, quotes, backslashes and operators, and the signs keep the shape of the job. -/
theorem ofLine_write (gap between : Gap) (pipelines : List Pipeline) :
    Job.ofLine (write gap between pipelines) = .ok ⟨pipelines, []⟩ := by
  obtain ⟨tokens, sequence, read⟩ := spells_job gap between pipelines 0 [] trivial
  rw [List.append_nil, ofText_nil] at read
  simp only [Job.ofLine, Scan.ofLine, read, prepend, List.append_nil, sequence.read]

example : write space space [⟨⟨"a b", [""], [⟨.append, "it's"⟩]⟩, [⟨"wc", [], []⟩], true⟩] =
    "'a b' '' >> 'it'\\''s' | 'wc' &" := by decide

end CommandShell.Proofs.JobWriting
