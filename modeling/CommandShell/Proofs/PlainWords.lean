import CommandShell.Proofs.JobWriting

/-! Texts that can be put into a line as they are. A plain text is read back as one word that means
itself, and no other text is read back so. -/

namespace CommandShell.Proofs.PlainWords
open JobWriting Scan ScanSteps

/-- A text without spaces, operators and quotes, and with no backslash but at its end. -/
structure Plain (text : Text) : Prop where
  filled : text ≠ []
  ordinary : ∀ c ∈ text, isSpace c = false ∧ operator? c = none ∧ isQuote c = false
  unescaped : '\\' ∉ text.dropLast

inductive Inert : Text → Prop
  | nil : Inert []
  | cons {c : Char} {rest : Text} (space : isSpace c = false) (sign : operator? c = none)
      (quote : isQuote c = false) (last : c = '\\' → rest = []) (inert : Inert rest) : Inert (c :: rest)

theorem inert_iff {text : Text} : Inert text ↔
    (∀ c ∈ text, isSpace c = false ∧ operator? c = none ∧ isQuote c = false) ∧ '\\' ∉ text.dropLast := by
  constructor
  · intro inert
    induction inert with
    | nil => exact ⟨nofun, nofun⟩
    | @cons c rest space sign quote last inert ih =>
      refine ⟨List.forall_mem_cons.mpr ⟨⟨space, sign, quote⟩, ih.1⟩, ?_⟩
      cases rest with
      | nil => nofun
      | cons d rest =>
        rw [List.dropLast_cons_cons, List.mem_cons, not_or]
        exact ⟨fun same => List.cons_ne_nil d rest (last same.symm), ih.2⟩
  · rintro ⟨ordinary, unescaped⟩
    induction text with
    | nil => exact .nil
    | cons c rest ih =>
      obtain ⟨⟨space, sign, quote⟩, others⟩ := List.forall_mem_cons.mp ordinary
      cases rest with
      | nil => exact .cons space sign quote (fun _ => rfl) .nil
      | cons d rest =>
        rw [List.dropLast_cons_cons, List.mem_cons, not_or] at unescaped
        exact .cons space sign quote (fun same => absurd same.symm unescaped.1) (ih others unescaped.2)

theorem plain_iff {text : Text} : Plain text ↔ text ≠ [] ∧ Inert text :=
  ⟨fun plain => ⟨plain.filled, inert_iff.mpr ⟨plain.ordinary, plain.unescaped⟩⟩,
    fun ⟨filled, inert⟩ => ⟨filled, (inert_iff.mp inert).1, (inert_iff.mp inert).2⟩⟩

private theorem meaning_ordinary {c : Char} {rest : Text} (quote : isQuote c = false)
    (last : c = '\\' → rest = []) :
    Word.meaningFrom .bare (c :: rest) = c :: Word.meaningFrom .bare rest := by
  simp only [isQuote, Bool.or_eq_false_iff, beq_eq_false_iff_ne] at quote
  by_cases backslash : c = '\\'
  · rw [backslash, last backslash]
    simp [Word.meaningFrom]
  · simp [Word.meaningFrom, quote, backslash]

theorem length_meaning_le (quoting : Word.Quoting) (text : Text) :
    (Word.meaningFrom quoting text).length ≤ text.length := by
  fun_induction Word.meaningFrom quoting text <;> simp <;> omega

theorem meaning_inert {text : Text} (inert : Inert text) : Word.meaning text = text := by
  induction inert with
  | nil => rfl
  | cons space sign quote last inert ih => exact (meaning_ordinary quote last).trans (congrArg _ ih)

private theorem word_inert {text rest : Text} (inert : Inert text) (stops : Stops rest)
    (ends : rest = [] ∨ '\\' ∉ text) (offset : Nat) :
    word none offset (text ++ rest) = .ok (text, rest) := by
  induction inert generalizing offset with
  | nil => exact word_stops stops offset
  | @cons c more space sign quote last inert ih =>
    have whole (backslash : c = '\\') : more ++ rest = [] := by
      obtain rfl | absent := ends
      · rw [last backslash]
        rfl
      · exact absurd (backslash ▸ List.mem_cons_self) absent
    have others : rest = [] ∨ '\\' ∉ more :=
      ends.imp_right fun absent inside => absent (List.mem_cons_of_mem c inside)
    rw [List.cons_append, word_ordinary space sign quote whole, ih others]
    rfl

/-- Quotes and backslashes that take a character with them are missing from what a word means. -/
theorem shorter_meaning {c : Char} {rest : Text} (signs : isQuote c = true ∨ (c = '\\' ∧ rest ≠ [])) :
    (Word.meaning (c :: rest)).length < (c :: rest).length := by
  rw [List.length_cons]
  obtain quote | ⟨rfl, filled⟩ := signs
  · simp only [isQuote, Bool.or_eq_true, beq_iff_eq] at quote
    obtain rfl | rfl := quote
    · exact Nat.lt_succ_of_le (length_meaning_le .single rest)
    · exact Nat.lt_succ_of_le (length_meaning_le .double rest)
  · obtain ⟨d, more, rfl⟩ := List.exists_cons_of_ne_nil filled
    exact Nat.succ_lt_succ (Nat.lt_succ_of_le (length_meaning_le .bare more))

private theorem inert_of_word {text : Text} {offset : Nat} (read : word none offset text = .ok (text, []))
    (same : Word.meaning text = text) : Inert text := by
  induction text generalizing offset with
  | nil => exact .nil
  | cons c rest ih =>
    have whole : ¬ (Word.meaning (c :: rest)).length < (c :: rest).length := by
      rw [same]
      exact Nat.lt_irrefl _
    have quote : isQuote c = false :=
      Bool.eq_false_iff.mpr fun quote => whole (shorter_meaning (.inl quote))
    have last (backslash : c = '\\') : rest = [] :=
      Decidable.byContradiction fun filled => whole (shorter_meaning (.inr ⟨backslash, filled⟩))
    have apart : ¬ (isSpace c || (operator? c).isSome) = true := by
      intro stops
      rw [word_bare, if_pos stops] at read
      cases read
    obtain ⟨space, sign⟩ := Bool.or_eq_false_iff.mp (Bool.eq_false_iff.mpr apart)
    have sign := Option.isSome_eq_false_iff.mp sign
    rw [word_ordinary space (Option.isNone_iff_eq_none.mp sign) quote last] at read
    obtain ⟨⟨text, later⟩, more, found⟩ := exists_of_map_add read
    cases found
    exact .cons space (Option.isNone_iff_eq_none.mp sign) quote last
      (ih more (List.tail_eq_of_cons_eq ((meaning_ordinary quote last).symm.trans same)))

private theorem argument_of_word (tokens : List Token) : ∀ argument ∈ (Command.readRest tokens).result.1,
    ∃ token ∈ tokens, token.kind = .word ∧ Word.meaning token.text = argument := by
  have later (front : List Token) {rest : List Token} {argument : Text}
      (found : ∃ token ∈ rest, token.kind = .word ∧ Word.meaning token.text = argument) :
      ∃ token ∈ front ++ rest, token.kind = .word ∧ Word.meaning token.text = argument := by
    obtain ⟨token, inside, reads⟩ := found
    exact ⟨token, List.mem_append_right front inside, reads⟩
  fun_induction Command.readRest tokens with
  | case1 => exact fun _ inside => absurd inside List.not_mem_nil
  | case2 token rest is_word more ih =>
    intro argument inside
    obtain rfl | inside := List.mem_cons.mp inside
    · exact ⟨token, List.mem_cons_self, is_word, rfl⟩
    · exact later [token] (ih argument inside)
  | case3 => exact fun _ inside => absurd inside List.not_mem_nil
  | case4 => exact fun _ inside => absurd inside List.not_mem_nil
  | case5 token not_word mode names target rest is_word more ih =>
    exact fun argument inside => later [token, target] (ih argument inside)
  | case6 token not_word mode names target rest not_target more ih =>
    exact fun argument inside => later [token] (ih argument inside)

/-- A line is one command of given words, and nothing in it fits nowhere. -/
def OneCommand (line : Text) (words : List Text) : Prop :=
  ∃ job, Job.ofLine line = .ok job ∧ job.diagnostics = [] ∧
    ∃ pipeline, job.pipelines = [pipeline] ∧ pipeline.later = [] ∧ pipeline.head.words = words

section Lines

variable {program value : Text}

private theorem ofLine_argument (plain : Plain program) (unescaped : '\\' ∉ program) (value : Text) :
    Scan.ofLine (program ++ ' ' :: value) =
      cons ⟨.word, program, 0⟩ (ofText (program.length + 1) value) := by
  obtain ⟨filled, inert⟩ := plain_iff.mp plain
  have read := word_inert inert (stops_space value) (.inr unescaped) 0
  obtain ⟨c, more, rfl⟩ := List.exists_cons_of_ne_nil filled
  obtain ⟨space, sign, -⟩ := plain.ordinary c List.mem_cons_self
  have gap : isSpace ' ' = true := rfl
  have first := ofText_word space sign read
  rwa [ofText_space gap, Nat.zero_add] at first

theorem ofText_plain (plain : Plain value) (offset : Nat) :
    ofText offset value = { tokens := [⟨.word, value, offset⟩] } := by
  obtain ⟨filled, inert⟩ := plain_iff.mp plain
  have stops : Stops [] := fun c member => by cases member
  have read := word_inert inert stops (.inl rfl) offset
  rw [List.append_nil] at read
  obtain ⟨c, more, rfl⟩ := List.exists_cons_of_ne_nil filled
  obtain ⟨space, sign, -⟩ := plain.ordinary c List.mem_cons_self
  rw [ofText_word space sign read, ofText_nil]
  rfl

private theorem plain_of_scan {offset : Nat} {token : Token} (inside : token ∈ (ofText offset value).tokens)
    (is_word : token.kind = .word) (same : Word.meaning token.text = value) : Plain value := by
  obtain ⟨front, later, whole, -, read⟩ := words_stand offset value token inside is_word
  have shorter := length_meaning_le .bare token.text
  have longer := (ordered_ofText offset value).nonempty token inside
  have lengths := congrArg List.length whole
  rw [Word.meaning] at same
  rw [same] at shorter
  rw [Token.stop] at longer
  simp only [List.length_append] at lengths
  obtain rfl : front = [] := List.eq_nil_of_length_eq_zero (by omega)
  obtain rfl : later = [] := List.eq_nil_of_length_eq_zero (by omega)
  rw [List.append_nil, List.nil_append] at whole
  rw [List.append_nil, whole] at read
  rw [whole] at same longer
  exact plain_iff.mpr ⟨List.ne_nil_of_length_pos (by omega), inert_of_word read same⟩

/-- An argument is read back as it was put in exactly if it is plain. -/
theorem oneCommand_iff_plain (plain : Plain program) (unescaped : '\\' ∉ program) :
    OneCommand (program ++ ' ' :: value) [program, value] ↔ Plain value := by
  have programMeans := meaning_inert (plain_iff.mp plain).2
  have line := ofLine_argument plain unescaped value
  constructor
  · rintro ⟨job, read, quiet, pipeline, only, alone, words⟩
    rw [Job.ofLine, line] at read
    cases closed : (ofText (program.length + 1) value).unclosed with
    | some unclosed => simp [cons, closed] at read
    | none =>
      simp only [cons, closed, Except.ok.injEq] at read
      have other : TokenKind.word ≠ .semicolon := by decide
      rw [← read, Job.ofTokens, if_neg other, if_pos rfl] at only
      obtain rfl := List.head_eq_of_cons_eq only
      have arguments : (Command.readRest (ofText (program.length + 1) value).tokens).result.1 = [value] :=
        List.tail_eq_of_cons_eq words
      have given : value ∈ (Command.readRest (ofText (program.length + 1) value).tokens).result.1 := by
        rw [arguments]
        exact List.mem_cons_self
      obtain ⟨token, inside, is_word, means⟩ := argument_of_word _ value given
      exact plain_of_scan inside is_word means
  · intro plainValue
    have valueMeans := meaning_inert (plain_iff.mp plainValue).2
    rw [ofText_plain plainValue] at line
    refine ⟨⟨[⟨⟨program, [value], []⟩, [], false⟩], []⟩, ?_, rfl, _, rfl, rfl, rfl⟩
    rw [Job.ofLine, line]
    simp [cons, Job.ofTokens, Pipeline.read, Command.read, Command.readRest, Pipeline.readLater,
      Pipeline.readBackground, programMeans, valueMeans]

end Lines

end CommandShell.Proofs.PlainWords
