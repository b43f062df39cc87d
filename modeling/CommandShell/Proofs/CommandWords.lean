import CommandShell.Highlight
import CommandShell.Proofs.JobAccount

/-! Where the highlighter expects a command, and where the reader finds one. The highlighter looks at
the token in front of a word only; the reader knows what it is reading. -/

namespace CommandShell.Proofs.CommandWords
open JobAccount

/-- Whether a command is expected behind some tokens: at the start, as it was before them, and else
right behind a separator. -/
def expects (expected : Bool) (before : List Token) : Bool :=
  (before.getLast?.map (·.kind.isSeparator)).getD expected

def commandWords : (expected : Bool) → List Token → List Token
  | _, [] => []
  | expected, token :: rest =>
    if token.kind = .word ∧ expected = true then token :: commandWords token.kind.isSeparator rest
    else commandWords token.kind.isSeparator rest

def starts : Item → List Token
  | .pipeline chain => chain.head.program :: chain.links.map (·.stage.program)
  | _ => []

def programs (account : Account) : List Token := account.items.flatMap starts

/-- The spans of a word, as a command where one is expected and as an argument elsewhere. -/
def wordSpans (lookups : Lookups) (settings : Settings) (around : Surroundings) (expected : Bool)
    (word : Token) : Lookups × List Span :=
  if expected then
    let (lookups, style) := lookups.commandStyle settings around word.text
    (lookups, Lookups.spanOf settings word.start word.stop style)
  else
    let style := Lookups.argumentStyle around word.text
    (lookups, (style.map (Lookups.spanOf settings word.start word.stop)).getD [])

theorem expects_cons (expected : Bool) (token : Token) (rest : List Token) :
    expects expected (token :: rest) = expects token.kind.isSeparator rest := by
  cases rest with
  | nil => rfl
  | cons next rest =>
    rw [expects, List.getLast?_cons_cons, expects]
    simp [List.getLast?_cons]

private theorem expects_append (expected : Bool) (first second : List Token) :
    expects expected (first ++ second) = expects (expects expected first) second := by
  induction first generalizing expected with
  | nil => rfl
  | cons token first ih => rw [List.cons_append, expects_cons, expects_cons, ih]

private theorem commandWords_word (expected : Bool) {word : Token} (is_word : word.kind = .word)
    (rest : List Token) :
    commandWords expected (word :: rest) =
      (if expected then [word] else []) ++ commandWords false rest := by
  have apart : word.kind.isSeparator = false := by rw [is_word]; rfl
  cases expected with
  | false => rw [commandWords, if_neg fun both => Bool.false_ne_true both.2, apart]; rfl
  | true => rw [commandWords, if_pos ⟨is_word, rfl⟩, apart]; rfl

private theorem commandWords_sign (expected : Bool) {sign : Token} (not_word : sign.kind ≠ .word)
    (rest : List Token) :
    commandWords expected (sign :: rest) = commandWords sign.kind.isSeparator rest := by
  rw [commandWords, if_neg fun both => not_word both.1]

theorem commandWords_append (expected : Bool) (first second : List Token) :
    commandWords expected (first ++ second) =
      commandWords expected first ++ commandWords (expects expected first) second := by
  induction first generalizing expected with
  | nil => rfl
  | cons token first ih =>
    rw [List.cons_append, expects_cons, commandWords, commandWords, ih]
    split <;> rfl

/-- Tokens that are met where a command is expected or not, the words in them that stand where one is
expected, and whether one is expected behind them. -/
def Meets (expected : Bool) (given words : List Token) (after : Bool) : Prop :=
  commandWords expected given = words ∧ expects expected given = after

namespace Meets

variable {expected middle after : Bool} {first second words others : List Token}

theorem append (front : Meets expected first words middle) (back : Meets middle second others after) :
    Meets expected (first ++ second) (words ++ others) after := by
  obtain ⟨rfl, rfl⟩ := front
  obtain ⟨rfl, rfl⟩ := back
  exact ⟨commandWords_append _ _ _, expects_append _ _ _⟩

theorem word (expected : Bool) {word : Token} (is_word : word.kind = .word) :
    Meets expected [word] (if expected then [word] else []) false := by
  refine ⟨?_, ?_⟩
  · rw [commandWords_word expected is_word]
    exact List.append_nil _
  · rw [expects_cons, is_word]
    rfl

theorem sign (expected : Bool) {sign : Token} (not_word : sign.kind ≠ .word) :
    Meets expected [sign] [] sign.kind.isSeparator :=
  ⟨commandWords_sign expected not_word [], expects_cons expected sign []⟩

theorem redirect (expected : Bool) {sign : Token} (redirects : sign.kind.isRedirect = true) :
    Meets expected [sign] [] false := by
  have not_word : sign.kind ≠ .word := by
    intro same
    simp [same, TokenKind.isRedirect] at redirects
  have joins : sign.kind.isSeparator = false := by
    cases kind : sign.kind <;> simp_all [TokenKind.isRedirect, TokenKind.isSeparator]
  exact joins ▸ Meets.sign expected not_word

theorem separator (expected : Bool) {sign : Token} (separates : sign.kind.isSeparator = true) :
    Meets expected [sign] [] true := by
  have not_word : sign.kind ≠ .word := by
    intro same
    simp [same, TokenKind.isSeparator] at separates
  exact separates ▸ Meets.sign expected not_word

end Meets

private theorem meets_parts (parts : List Part) :
    Meets false (tokens (parts.flatMap Part.places)) [] false := by
  induction parts with
  | nil => exact ⟨rfl, rfl⟩
  | cons part parts ih =>
    have first : Meets false (tokens part.places) [] false := by
      cases part with
      | argument word is_word => exact .word false is_word
      | redirect sign target mode names is_word =>
        exact (Meets.redirect false (isRedirect_of_ofKind? names)).append (.word false is_word)
      | stray sign redirects => exact .redirect false redirects
    rw [List.flatMap_cons, tokens_append]
    exact first.append ih

private theorem meets_stage (expected : Bool) (stage : Stage) :
    Meets expected (tokens stage.places) (if expected then [stage.program] else []) false := by
  have whole := (Meets.word expected stage.is_word).append (meets_parts stage.parts)
  rwa [List.append_nil] at whole

private theorem meets_links (links : List Link) :
    Meets false (tokens (links.flatMap Link.places)) (links.map (·.stage.program)) false := by
  induction links with
  | nil => exact ⟨rfl, rfl⟩
  | cons link links ih =>
    have pipe : Meets false [link.pipe] [] true := .separator false (by rw [link.is_pipe]; rfl)
    rw [List.flatMap_cons, tokens_append]
    exact (pipe.append (meets_stage true link.stage)).append ih

private theorem meets_chain (expected : Bool) (chain : Chain) :
    Meets expected (tokens chain.places)
      ((if expected then [chain.head.program] else []) ++ chain.links.map (·.stage.program))
      (chain.stray.isSome || chain.background.isSome) := by
  have stray : Meets false (tokens (Chain.strayPlaces chain.stray)) [] chain.stray.isSome := by
    cases chain.stray with
    | none => exact ⟨rfl, rfl⟩
    | some pipe => exact .separator false (by rw [pipe.property]; rfl)
  have background (waiting : Bool) : Meets waiting (tokens (Chain.backgroundPlaces chain.background))
      [] (waiting || chain.background.isSome) := by
    cases chain.background with
    | none => exact ⟨rfl, (Bool.or_false waiting).symm⟩
    | some sign =>
      rw [Option.isSome_some, Bool.or_true]
      exact .separator waiting (by rw [sign.property]; rfl)
  have front := (meets_stage expected chain.head).append (meets_links chain.links)
  have whole := (front.append stray).append (background _)
  simpa only [Chain.places, tokens_append, List.append_nil] using whole

/-- A word where a command is expected is the program of a command, whatever is wrong with a line. -/
theorem commandWords_sublist (expected : Bool) (items : List Item) :
    (commandWords expected (tokens (items.flatMap Item.places))).Sublist (items.flatMap starts) := by
  induction items generalizing expected with
  | nil => exact .slnil
  | cons item items ih =>
    rw [List.flatMap_cons, tokens_append, commandWords_append, List.flatMap_cons]
    refine List.Sublist.append ?_ (ih _)
    cases item with
    | separator sign is_semicolon =>
      have met := Meets.separator expected (show sign.kind.isSeparator = true by rw [is_semicolon]; rfl)
      rw [show commandWords expected (tokens (Item.separator sign is_semicolon).places) = [] from met.1]
      exact List.nil_sublist _
    | pipeline chain =>
      rw [Item.places, (meets_chain expected chain).1]
      cases expected with
      | false => exact List.sublist_cons_self _ _
      | true => exact List.Sublist.refl _
    | stray sign apart =>
      rw [show commandWords expected (tokens (Item.stray sign apart).places) = []
        from (Meets.sign expected apart.1).1]
      exact List.nil_sublist _

private theorem commandWords_quiet {items : List Item} (quiet : diagnostics (items.flatMap Item.places) = [])
    (separated : Separated items) (expected : Bool)
    (begins : expected = false →
      ∀ token ∈ (tokens (items.flatMap Item.places)).head?, token.kind = .semicolon) :
    commandWords expected (tokens (items.flatMap Item.places)) = items.flatMap starts := by
  induction items generalizing expected with
  | nil => rfl
  | cons item items ih =>
    rw [List.flatMap_cons, diagnostics_append, List.append_eq_nil_iff] at quiet
    rw [List.flatMap_cons, tokens_append, commandWords_append, List.flatMap_cons]
    cases item with
    | separator sign is_semicolon =>
      have met := Meets.separator expected (show sign.kind.isSeparator = true by rw [is_semicolon]; rfl)
      have opened : expects expected (tokens (Item.separator sign is_semicolon).places) = true := met.2
      rw [show commandWords expected (tokens (Item.separator sign is_semicolon).places) = [] from met.1,
        opened, ih quiet.2 separated true nofun]
      rfl
    | pipeline chain =>
      -- Where none is expected, what comes next is a semicolon; a pipeline starts with a word.
      have awaited : expected = true := by
        cases expected with
        | true => rfl
        | false =>
          have is_semicolon := begins rfl chain.head.program rfl
          rw [chain.head.is_word] at is_semicolon
          cases is_semicolon
      have no_stray : chain.stray = none := by
        cases found : chain.stray with
        | none => rfl
        | some pipe =>
          have reported := quiet.1
          simp [Item.places, Chain.places, found, Chain.strayPlaces, diagnostics,
            Place.diagnostics] at reported
      obtain ⟨follow, separated⟩ := separated
      obtain ⟨shown, after⟩ := meets_chain expected chain
      rw [Item.places, shown, after, awaited, ih quiet.2 separated]
      · rfl
      · intro closed
        have no_background : chain.background = none := by simpa [no_stray] using closed
        exact follow no_stray no_background
    | stray sign apart => cases quiet.1

section Spans

variable (settings : Settings) (around : Surroundings)

theorem spansOfTokens_word (expected : Bool) (lookups : Lookups) {word : Token}
    (is_word : word.kind = .word) (rest : List Token) :
    let here := wordSpans lookups settings around expected word
    let later := Lookups.spansOfTokens settings around false here.1 rest
    Lookups.spansOfTokens settings around expected lookups (word :: rest) =
      (later.1, here.2 ++ later.2) := by
  rw [Lookups.spansOfTokens, if_pos is_word]
  cases expected <;> rfl

private theorem spansOfTokens_append (expected : Bool) (lookups : Lookups) (first second : List Token) :
    let front := Lookups.spansOfTokens settings around expected lookups first
    let back := Lookups.spansOfTokens settings around (expects expected first) front.1 second
    Lookups.spansOfTokens settings around expected lookups (first ++ second) =
      (back.1, front.2 ++ back.2) := by
  induction first generalizing expected lookups with
  | nil => rfl
  | cons token first ih =>
    rw [expects_cons]
    by_cases is_word : token.kind = .word
    · have joins : token.kind.isSeparator = false := by rw [is_word]; rfl
      rw [List.cons_append, spansOfTokens_word _ _ _ _ is_word, spansOfTokens_word _ _ _ _ is_word, ih,
        joins]
      simp only [List.append_assoc]
    · simp only [List.cons_append, Lookups.spansOfTokens, if_neg is_word, ih, List.append_assoc]

/-- The spans of a line are those of its tokens in order. A word gets the style of a command where one
is expected, and nowhere else. -/
theorem spansOfTokens_behind (lookups : Lookups) (before : List Token) {word : Token}
    (is_word : word.kind = .word) (after : List Token) :
    let seen := Lookups.spansOfTokens settings around true lookups before
    let here := wordSpans seen.1 settings around (expects true before) word
    let later := Lookups.spansOfTokens settings around false here.1 after
    Lookups.spansOfTokens settings around true lookups (before ++ word :: after) =
      (later.1, seen.2 ++ here.2 ++ later.2) := by
  rw [spansOfTokens_append, spansOfTokens_word _ _ _ _ is_word]
  simp only [List.append_assoc]

end Spans

/-- What the highlighter does with a word that stands between other tokens of a line: it is among the
command words, and styled as a command, if it is the first token or follows a separator; else it is
styled as an argument. -/
structure Treats (line : Text) (before : List Token) (word : Token) (after : List Token) : Prop where
  words : commandWords true (Scan.ofLine line).tokens =
    commandWords true before ++ (if expects true before then [word] else []) ++ commandWords false after
  spans : ∀ settings around lookups,
    let seen := Lookups.spansOfTokens settings around true lookups before
    let here := wordSpans seen.1 settings around (expects true before) word
    let later := Lookups.spansOfTokens settings around false here.1 after
    Lookups.spans lookups settings around line = (later.1, seen.2 ++ here.2 ++ later.2)

private theorem treats_word {line : Text} (closed : (Scan.ofLine line).unclosed = none)
    {before after : List Token} {word : Token}
    (split : (Scan.ofLine line).tokens = before ++ word :: after) (is_word : word.kind = .word) :
    Treats line before word after where
  words := by
    rw [split, commandWords_append, commandWords_word _ is_word, List.append_assoc]
  spans settings around lookups := by
    simp only [Lookups.spans, closed, split]
    exact spansOfTokens_behind settings around lookups before is_word after

private theorem starts_programs (items : List Item) :
    gather (fun command => [command.program]) (items.flatMap Item.pipelines) =
      (items.flatMap starts).map fun word => Word.meaning word.text := by
  induction items with
  | nil => rfl
  | cons item items ih =>
    rw [List.flatMap_cons, List.flatMap_cons, List.map_append, ← ih]
    simp only [gather, List.flatMap_append]
    congr 1
    cases item with
    | separator | stray => rfl
    | pipeline chain =>
      simp only [Item.pipelines, starts, Chain.pipeline, Pipeline.commands, Stage.command,
        List.flatMap_cons, List.flatMap_nil, List.append_nil, List.flatMap_map, List.map_cons,
        List.map_map, List.singleton_append]
      rw [← List.map_eq_flatMap]
      rfl

/-- The words that the highlighter styles as commands, those at the start of a line and right behind a
separator, are programs of commands of the job, in its order. Where nothing is reported they are all
the programs. -/
theorem command_words_are_programs {line : Text} (closed : (Scan.ofLine line).unclosed = none) :
    ∃ job account, Job.ofLine line = .ok job ∧ Explains account (Scan.ofLine line).tokens job ∧
      gather (fun command => [command.program]) job.pipelines =
        (programs account).map (fun word => Word.meaning word.text) ∧
      (∀ before word after, (Scan.ofLine line).tokens = before ++ word :: after → word.kind = .word →
        Treats line before word after) ∧
      (commandWords true (Scan.ofLine line).tokens).Sublist (programs account) ∧
      (job.diagnostics = [] → commandWords true (Scan.ofLine line).tokens = programs account) := by
  obtain ⟨account, split, read, separated⟩ := exists_separated (Scan.ofLine line).tokens
  have ordered : ScanSteps.Ordered 0 (tokens account.places) := by
    rw [split]
    exact ScanSteps.ordered_ofText 0 line
  refine ⟨⟨account.pipelines, diagnostics account.places⟩, account, ?_, split ▸ account.explains ordered,
    starts_programs account.items, fun _ _ _ => treats_word closed, ?_, fun quiet => ?_⟩
  · rw [ofLine_of_closed closed, read]
  · rw [← split]
    exact commandWords_sublist true account.items
  · rw [← split]
    exact commandWords_quiet quiet separated true nofun

/-- A redirect in front of the arguments, a pipe, a background sign and semicolons in a row. -/
theorem command_words_of_line :
    (Scan.ofLine "sort <in -r | wc & ;; ls").unclosed = none ∧
    ∃ job account, Job.ofLine "sort <in -r | wc & ;; ls" = .ok job ∧
      Explains account (Scan.ofLine "sort <in -r | wc & ;; ls").tokens job ∧
      (programs account).map Token.text = (["sort", "wc", "ls"] : List Text) := by
  have closed : (Scan.ofLine "sort <in -r | wc & ;; ls").unclosed = none := by decide +kernel
  have known : (Job.ofTokens (Scan.ofLine "sort <in -r | wc & ;; ls").tokens).diagnostics = [] := by
    decide +kernel
  have words : (commandWords true (Scan.ofLine "sort <in -r | wc & ;; ls").tokens).map Token.text =
      (["sort", "wc", "ls"] : List Text) := by decide +kernel
  obtain ⟨job, account, read, explains, -, -, -, all⟩ := command_words_are_programs closed
  have quiet : job.diagnostics = [] := by
    rw [ofLine_of_closed closed] at read
    rwa [← Except.ok.inj read]
  exact ⟨closed, job, account, read, explains, all quiet ▸ words⟩

end CommandShell.Proofs.CommandWords
