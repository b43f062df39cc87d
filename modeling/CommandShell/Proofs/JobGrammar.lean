import CommandShell.Proofs.JobAccount

/-! The grammar of command lines, over the kinds of tokens. Each symbol relates tokens to what they
stand for. The reader accepts exactly the lines that the grammar derives, and reads a derived line
as its derivation does. -/

namespace CommandShell.Proofs.JobGrammar
open JobAccount

/-- What may stand behind the program of a command: `(WORD | REDIRECT WORD)*`. -/
inductive Tail : List Token → List Text → List Redirect → Prop
  | nil : Tail [] [] []
  | word {word : Token} {rest : List Token} {arguments : List Text} {redirects : List Redirect} :
      word.kind = .word → Tail rest arguments redirects →
      Tail (word :: rest) (Word.meaning word.text :: arguments) redirects
  | redirect {sign target : Token} {rest : List Token} {mode : RedirectMode}
      {arguments : List Text} {redirects : List Redirect} :
      RedirectMode.ofKind? sign.kind = some mode → target.kind = .word →
      Tail rest arguments redirects →
      Tail (sign :: target :: rest) arguments (⟨mode, Word.meaning target.text⟩ :: redirects)

/-- A command: `WORD Tail`. -/
inductive Single : List Token → Command → Prop
  | program {word : Token} {rest : List Token} {arguments : List Text} {redirects : List Redirect} :
      word.kind = .word → Tail rest arguments redirects →
      Single (word :: rest) ⟨Word.meaning word.text, arguments, redirects⟩

/-- A pipeline: `Single | Single '|' Piped`. -/
inductive Piped : List Token → Command → List Command → Prop
  | last {given : List Token} {command : Command} : Single given command → Piped given command []
  | pipe {given rest : List Token} {sign : Token} {command next : Command} {later : List Command} :
      Single given command → sign.kind = .pipe → Piped rest next later →
      Piped (given ++ sign :: rest) command (next :: later)

/-- A job: `empty | ';' Sequence | Piped | Piped ';' Sequence | Piped '&' Sequence`. -/
inductive Sequence : List Token → List Pipeline → Prop
  | empty : Sequence [] []
  | semicolon {sign : Token} {rest : List Token} {pipelines : List Pipeline} :
      sign.kind = .semicolon → Sequence rest pipelines → Sequence (sign :: rest) pipelines
  | last {given : List Token} {head : Command} {later : List Command} :
      Piped given head later → Sequence given [⟨head, later, false⟩]
  | foreground {given rest : List Token} {sign : Token} {head : Command} {later : List Command}
      {pipelines : List Pipeline} :
      Piped given head later → sign.kind = .semicolon → Sequence rest pipelines →
      Sequence (given ++ sign :: rest) (⟨head, later, false⟩ :: pipelines)
  | background {given rest : List Token} {sign : Token} {head : Command} {later : List Command}
      {pipelines : List Pipeline} :
      Piped given head later → sign.kind = .background → Sequence rest pipelines →
      Sequence (given ++ sign :: rest) (⟨head, later, true⟩ :: pipelines)

theorem Tail.read {given : List Token} {arguments : List Text} {redirects : List Redirect}
    (tail : Tail given arguments redirects) {rest : List Token} (ends : Ends rest) :
    Command.readRest (given ++ rest) = ⟨(arguments, redirects), rest, []⟩ := by
  induction tail with
  | nil =>
    cases rest with
    | nil => rfl
    | cons token rest =>
      have separates : token.kind.isSeparator = true := ends token rfl
      rw [List.nil_append, Command.readRest]
      cases kind : token.kind <;>
        simp_all [RedirectMode.ofKind?, TokenKind.isSeparator]
  | word is_word _ ih => rw [List.cons_append, Command.readRest, if_pos is_word, ih]
  | @redirect sign _ _ _ _ _ names is_word _ ih =>
    have not_word : sign.kind ≠ .word := by
      intro same
      simp [same, RedirectMode.ofKind?] at names
    simp only [List.cons_append]
    rw [Command.readRest, if_neg not_word, names]
    simp only [if_pos is_word, ih]

theorem Single.read {given : List Token} {command : Command} (single : Single given command) :
    ∃ word later, given = word :: later ∧ word.kind = .word ∧
      ∀ {rest : List Token}, Ends rest → Command.read word (later ++ rest) = ⟨command, rest, []⟩ := by
  obtain ⟨is_word, tail⟩ := single
  refine ⟨_, _, rfl, is_word, fun ends => ?_⟩
  rw [Command.read, tail.read ends]

def Closes (rest : List Token) : Prop :=
  ∀ token ∈ rest.head?, token.kind = .semicolon ∨ token.kind = .background

theorem Closes.ends {rest : List Token} (closes : Closes rest) : Ends rest := by
  intro token member
  rcases closes token member with kind | kind <;> simp [kind, TokenKind.isSeparator]

theorem Closes.readLater {rest : List Token} (closes : Closes rest) :
    Pipeline.readLater rest = ⟨[], rest, []⟩ := by
  cases rest with
  | nil => rw [Pipeline.readLater]
  | cons token rest =>
    have not_pipe : token.kind ≠ .pipe := by
      rcases closes token rfl with kind | kind <;> simp [kind]
    unfold Pipeline.readLater
    exact if_neg not_pipe

/-- A pipeline is read whole. Its first command is read apart from the commands behind the pipes, so
the induction gives both readings. -/
theorem Piped.read {given : List Token} {head : Command} {later : List Command}
    (piped : Piped given head later) :
    ∃ word behind, given = word :: behind ∧ word.kind = .word ∧
      ∀ {rest : List Token}, Closes rest → ∃ middle,
        Command.read word (behind ++ rest) = ⟨head, middle, []⟩ ∧
        Pipeline.readLater middle = ⟨later, rest, []⟩ := by
  induction piped with
  | last single =>
    obtain ⟨word, behind, rfl, is_word, read⟩ := single.read
    exact ⟨word, behind, rfl, is_word, fun closes => ⟨_, read closes.ends, closes.readLater⟩⟩
  | @pipe given others sign command next later single is_pipe _ ih =>
    obtain ⟨word, behind, rfl, is_word, read⟩ := single.read
    obtain ⟨second, beyond, rfl, second_word, others⟩ := ih
    refine ⟨word, behind ++ sign :: second :: beyond, rfl, is_word, fun {rest} closes => ?_⟩
    obtain ⟨middle, first, more⟩ := others closes
    have ends : Ends (sign :: second :: (beyond ++ rest)) := by
      intro token member
      obtain rfl := Option.some.inj member
      simp [is_pipe, TokenKind.isSeparator]
    refine ⟨_, by simpa using read ends, ?_⟩
    rw [Pipeline.readLater, if_pos is_pipe]
    simp only [if_pos second_word, first, more, List.nil_append]

theorem Piped.readJob {given : List Token} {head : Command} {later : List Command}
    (piped : Piped given head later) {rest : List Token} (closes : Closes rest) :
    Job.ofTokens (given ++ rest) =
      ⟨⟨head, later, (Pipeline.readBackground rest).result⟩ ::
        (Job.ofTokens (Pipeline.readBackground rest).rest).pipelines,
        (Job.ofTokens (Pipeline.readBackground rest).rest).diagnostics⟩ := by
  obtain ⟨word, behind, rfl, is_word, read⟩ := piped.read
  obtain ⟨middle, first, more⟩ := read closes
  have not_semicolon : word.kind ≠ .semicolon := by simp [is_word]
  rw [List.cons_append, Job.ofTokens, if_neg not_semicolon, if_pos is_word]
  simp only [Pipeline.read, first, more, List.nil_append]

theorem Sequence.read {given : List Token} {pipelines : List Pipeline}
    (sequence : Sequence given pipelines) : Job.ofTokens given = ⟨pipelines, []⟩ := by
  induction sequence with
  | empty => rw [Job.ofTokens]
  | semicolon is_semicolon _ ih => rw [Job.ofTokens, if_pos is_semicolon, ih]
  | last piped =>
    have read := piped.readJob (show Closes [] by simp [Closes])
    simpa [Pipeline.readBackground, Job.ofTokens] using read
  | @foreground given rest sign _ _ _ piped is_semicolon _ ih =>
    have not_background : sign.kind ≠ .background := by simp [is_semicolon]
    rw [piped.readJob (by simp [Closes, is_semicolon]), Pipeline.readBackground, if_neg not_background,
      Job.ofTokens, if_pos is_semicolon, ih]
  | background piped is_background _ ih =>
    rw [piped.readJob (by simp [Closes, is_background]), Pipeline.readBackground,
      if_pos is_background, ih]

private theorem tail_of_parts (parts : List Part) (quiet : diagnostics (parts.flatMap Part.places) = []) :
    Tail (tokens (parts.flatMap Part.places)) (parts.flatMap Part.arguments)
      (parts.flatMap Part.redirects) := by
  induction parts with
  | nil => exact .nil
  | cons part parts ih =>
    rw [List.flatMap_cons, diagnostics_append, List.append_eq_nil_iff] at quiet
    cases part with
    | argument word is_word => exact .word is_word (ih quiet.2)
    | redirect sign target mode names is_word => exact .redirect names is_word (ih quiet.2)
    | stray sign redirects => cases quiet.1

private theorem single_of_stage (stage : Stage) (quiet : diagnostics stage.places = []) :
    Single (tokens stage.places) stage.command :=
  .program stage.is_word (tail_of_parts stage.parts quiet)

private theorem piped_of_links (links : List Link) (quiet : diagnostics (links.flatMap Link.places) = [])
    {given : List Token} {command : Command} (single : Single given command) :
    Piped (given ++ tokens (links.flatMap Link.places)) command
      (links.map (·.stage.command)) := by
  induction links generalizing given command with
  | nil => simpa using Piped.last single
  | cons link links ih =>
    rw [List.flatMap_cons, diagnostics_append, List.append_eq_nil_iff] at quiet
    have next := ih quiet.2 (single_of_stage link.stage quiet.1)
    simpa [Link.places] using Piped.pipe single link.is_pipe next

private theorem piped_of_chain (chain : Chain) (quiet : diagnostics chain.places = []) :
    chain.stray = none ∧ ∃ given, Piped given chain.head.command (chain.links.map (·.stage.command)) ∧
      tokens chain.places = given ++ tokens (Chain.backgroundPlaces chain.background) := by
  simp only [Chain.places, diagnostics_append, List.append_eq_nil_iff] at quiet
  obtain ⟨⟨⟨head, links⟩, stray⟩, -⟩ := quiet
  have no_stray : chain.stray = none := by
    cases found : chain.stray with
    | none => rfl
    | some pipe => rw [found] at stray; cases stray
  refine ⟨no_stray, _, piped_of_links chain.links links (single_of_stage chain.head head), ?_⟩
  simp [Chain.places, no_stray, Chain.strayPlaces]

theorem Piped.head_word {given : List Token} {head : Command} {later : List Command}
    (piped : Piped given head later) {sign : Token} {rest more : List Token}
    (same : sign :: rest = given ++ more) : sign.kind = .word := by
  obtain ⟨word, behind, rfl, is_word, -⟩ := piped.read
  obtain ⟨rfl, -⟩ := List.cons.inj same
  exact is_word

theorem Sequence.of_semicolon {sign : Token} {rest : List Token} {pipelines : List Pipeline}
    (sequence : Sequence (sign :: rest) pipelines) (is_semicolon : sign.kind = .semicolon) :
    Sequence rest pipelines := by
  generalize same : sign :: rest = given at sequence
  cases sequence with
  | empty => cases same
  | semicolon _ sequence =>
    obtain ⟨-, rfl⟩ := List.cons.inj same
    exact sequence
  | last piped =>
    have is_word := piped.head_word (show sign :: rest = _ ++ [] by simpa using same)
    simp [is_semicolon] at is_word
  | foreground piped | background piped =>
    have is_word := piped.head_word same
    simp [is_semicolon] at is_word

/-- A chain without stray signs goes on the way the grammar allows: nothing but a semicolon may
follow where the background sign is missing. -/
theorem sequence_of_chain {chain : Chain} (quiet : diagnostics chain.places = [])
    {rest : List Token} {pipelines : List Pipeline} (later : Sequence rest pipelines)
    (follow : chain.stray = none → chain.background = none →
      ∀ token ∈ rest.head?, token.kind = .semicolon) :
    Sequence (tokens chain.places ++ rest) (chain.pipeline :: pipelines) := by
  obtain ⟨no_stray, given, piped, split⟩ := piped_of_chain chain quiet
  rw [split, Chain.pipeline]
  cases background : chain.background with
  | some sign => simpa [Chain.backgroundPlaces] using Sequence.background piped sign.property later
  | none =>
    -- Without a background sign the derivation ends here or needs the semicolon that comes next.
    cases rest with
    | nil =>
      have none_left : pipelines = [] := by simpa [Job.ofTokens] using later.read.symm
      simpa [Chain.backgroundPlaces, none_left] using Sequence.last piped
    | cons sign rest =>
      have is_semicolon := follow no_stray background sign rfl
      simpa [Chain.backgroundPlaces] using
        Sequence.foreground piped is_semicolon (later.of_semicolon is_semicolon)

private theorem sequence_of_quiet (given : List Token) (quiet : (Job.ofTokens given).diagnostics = []) :
    Sequence given (Job.ofTokens given).pipelines := by
  fun_induction Job.ofTokens given with
  | case1 => exact .empty
  | case2 sign rest is_semicolon ih => exact .semicolon is_semicolon (ih quiet)
  | case3 word rest _ is_word pipeline more ih =>
    obtain ⟨chain, reads, follow⟩ := exists_chain word is_word rest
    obtain ⟨chain_quiet, rest_quiet⟩ := List.append_eq_nil_iff.mp quiet
    rw [reads.diagnostics] at chain_quiet
    have whole := sequence_of_chain chain_quiet (ih rest_quiet) follow
    rwa [reads.split, ← reads.result] at whole
  | case4 sign rest _ _ more ih => cases quiet

/-- The reader accepts exactly the grammar: a line has no diagnostic if and only if its tokens are
derivable, and then the job is that of the derivation. -/
theorem quiet_iff_derivable {line : Text} (closed : (Scan.ofLine line).unclosed = none) :
    ∃ job, Job.ofLine line = .ok job ∧
      (job.diagnostics = [] ↔ ∃ pipelines, Sequence (Scan.ofLine line).tokens pipelines) ∧
      ∀ pipelines, Sequence (Scan.ofLine line).tokens pipelines → job.pipelines = pipelines := by
  refine ⟨Job.ofTokens (Scan.ofLine line).tokens, ofLine_of_closed closed, ⟨?_, ?_⟩, ?_⟩
  · intro quiet
    exact ⟨_, sequence_of_quiet _ quiet⟩
  · rintro ⟨pipelines, sequence⟩
    rw [sequence.read]
  · intro pipelines sequence
    rw [sequence.read]

/-- A derivation with a redirect between words, a background sign and semicolons in a row. -/
theorem derivable_line :
    (Scan.ofLine "sort <in -r | wc & ;; ls").unclosed = none ∧
    Sequence (Scan.ofLine "sort <in -r | wc & ;; ls").tokens
      [⟨⟨"sort", ["-r"], [⟨.read, "in"⟩]⟩, [⟨"wc", [], []⟩], true⟩, ⟨⟨"ls", [], []⟩, [], false⟩] := by
  have closed : (Scan.ofLine "sort <in -r | wc & ;; ls").unclosed = none := by decide +kernel
  have known : Job.ofTokens (Scan.ofLine "sort <in -r | wc & ;; ls").tokens =
      ⟨[⟨⟨"sort", ["-r"], [⟨.read, "in"⟩]⟩, [⟨"wc", [], []⟩], true⟩, ⟨⟨"ls", [], []⟩, [], false⟩],
        []⟩ := by decide +kernel
  obtain ⟨job, read, accepted, derived⟩ := quiet_iff_derivable closed
  rw [ofLine_of_closed closed, known] at read
  obtain rfl := Except.ok.inj read
  obtain ⟨pipelines, sequence⟩ := accepted.mp rfl
  obtain rfl := derived pipelines sequence
  exact ⟨closed, sequence⟩

end CommandShell.Proofs.JobGrammar
