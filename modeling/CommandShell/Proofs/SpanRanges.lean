import CommandShell.Proofs.CommandWords
import CommandShell.Proofs.Frames
import CommandShell.Proofs.LineParts
import CommandShell.Proofs.TokenSpans

/-! Where the spans of a line lie. Each is the range of a token, in the order of the line; an open quote
adds one more, from the quote to the end. -/

namespace CommandShell.Proofs.SpanRanges
open CommandWords LineMarks TokenSpans

def roles : List Text :=
  ["keyword", "command.valid", "command.invalid", "operator", "option", "variable", "string", "path"]

/-- The settings have a style for each part of a line, and none of them is empty. -/
def Styled (settings : Settings) : Prop :=
  ∀ name ∈ roles, (settings.highlightStyles.get? name).any Json.isTrue = true

def spanRange (span : Span) : Nat × Nat := (span.start, span.stop)

def tokenRange (token : Token) : Nat × Nat := (token.start, token.stop)

/-- What an open quote leaves without tokens of a line, from the quote on. -/
def openRanges (line : Text) (unclosed : Option OpenQuote) : List (Nat × Nat) :=
  unclosed.toList.map fun found => (found.position, line.length)

/-- The tokens that get a style: the operators, the words where a command is expected, and those of the
other words that stand for something. -/
def styledTokens (around : Surroundings) : (expected : Bool) → List Token → List Token
  | _, [] => []
  | expected, token :: rest =>
    let later := styledTokens around token.kind.isSeparator rest
    if token.kind ≠ .word ∨ expected = true ∨ (Lookups.argumentStyle around token.text).isSome then
      token :: later
    else later

private theorem styledTokens_sublist (around : Surroundings) (expected : Bool) (given : List Token) :
    (styledTokens around expected given).Sublist given := by
  induction given generalizing expected with
  | nil => exact .slnil
  | cons token rest ih =>
    rw [styledTokens]
    split
    · exact (ih _).cons_cons token
    · exact (ih _).cons token

private theorem operators_styled (around : Surroundings) (expected : Bool) (given : List Token) :
    ∀ token ∈ given, token.kind ≠ .word → token ∈ styledTokens around expected given := by
  induction given generalizing expected with
  | nil => exact fun _ member => absurd member List.not_mem_nil
  | cons first rest ih =>
    intro token member operator
    rw [styledTokens]
    rcases List.mem_cons.mp member with rfl | later
    · rw [if_pos (.inl operator)]
      exact List.mem_cons_self
    · have found := ih first.kind.isSeparator token later operator
      split
      · exact List.mem_cons_of_mem _ found
      · exact found

private theorem commandWords_styled (around : Surroundings) (expected : Bool) (given : List Token) :
    (commandWords expected given).Sublist (styledTokens around expected given) := by
  induction given generalizing expected with
  | nil => exact .slnil
  | cons token rest ih =>
    rw [commandWords, styledTokens]
    by_cases awaited : token.kind = .word ∧ expected = true
    · rw [if_pos awaited, if_pos (.inr (.inl awaited.2))]
      exact (ih _).cons_cons token
    · rw [if_neg awaited]
      split
      · exact (ih _).cons token
      · exact ih _

section Ranges

variable {settings : Settings} (styled : Styled settings)

include styled in
theorem ranges_spanOf {name : Text} (role : name ∈ roles) {start stop : Nat} (nonempty : start < stop) :
    (Lookups.spanOf settings start stop name).map spanRange = [(start, stop)] := by
  have given := styled name role
  cases found : settings.highlightStyles.get? name with
  | none => simp [found] at given
  | some style =>
    have visible : style.isTrue = true := by simpa [found] using given
    simp [Lookups.spanOf, found, visible, nonempty, spanRange]

private theorem argumentStyle_role (around : Surroundings) (word : Text) :
    ∀ name ∈ Lookups.argumentStyle around word, name ∈ roles := by
  intro name found
  unfold Lookups.argumentStyle at found
  split at found
  · cases found
    simp [roles]
  split at found
  · cases found
    simp [roles]
  split at found
  · cases found
    simp [roles]
  split at found
  · cases found
    simp [roles]
  · cases found

private theorem commandStyle_role (lookups : Lookups) (settings : Settings) (around : Surroundings)
    (word : Text) : (lookups.commandStyle settings around word).2 ∈ roles := by
  have keyword : "keyword".toList ∈ roles := by simp [roles]
  have command (found : Bool) :
      (if found then "command.valid".toList else "command.invalid".toList) ∈ roles := by
    cases found <;> simp [roles]
  unfold Lookups.commandStyle
  split
  · exact keyword
  · exact command _

include styled in
private theorem ranges_wordSpans (around : Surroundings) (lookups : Lookups) (expected : Bool) {word : Token}
    (nonempty : word.start < word.stop) :
    (wordSpans lookups settings around expected word).2.map spanRange =
      if expected = true ∨ (Lookups.argumentStyle around word.text).isSome then [tokenRange word]
      else [] := by
  cases expected with
  | true => exact ranges_spanOf styled (commandStyle_role lookups settings around word.text) nonempty
  | false =>
    cases found : Lookups.argumentStyle around word.text with
    | none => simp [wordSpans, found]
    | some name =>
      have one := ranges_spanOf styled (argumentStyle_role around word.text name found) nonempty
      simpa [wordSpans, found, tokenRange] using one

include styled in
private theorem ranges_spansOfTokens (around : Surroundings) (expected : Bool) (lookups : Lookups)
    (given : List Token) (nonempty : ∀ token ∈ given, token.start < token.stop) :
    (Lookups.spansOfTokens settings around expected lookups given).2.map spanRange =
      (styledTokens around expected given).map tokenRange := by
  induction given generalizing expected lookups with
  | nil => rfl
  | cons token rest ih =>
    obtain ⟨here, nonempty⟩ := List.forall_mem_cons.mp nonempty
    rw [styledTokens]
    by_cases is_word : token.kind = .word
    · have joins : token.kind.isSeparator = false := by rw [is_word]; rfl
      rw [spansOfTokens_word settings around expected lookups is_word, List.map_append,
        ranges_wordSpans styled around lookups expected here, ih false _ nonempty, joins]
      simp only [is_word, ne_eq, not_true_eq_false, false_or]
      split <;> rfl
    · have operator : "operator".toList ∈ roles := by simp [roles]
      rw [Lookups.spansOfTokens, if_neg is_word, if_pos (.inl is_word), List.map_append,
        ranges_spanOf styled operator here, ih _ _ nonempty]
      rfl

end Ranges

section Quotes

private theorem step_opened {last : Bool} {offset : Nat} {c : Char} {state : State} {found : OpenQuote}
    (opened : (step last offset c state).2.mode.unclosed = some found) :
    state.mode.unclosed = some found ∨ found = ⟨c, offset⟩ := by
  unfold step at opened
  grind [Mode.unclosed]

/-- A region that is open behind a text was open before it, or it was opened by a quote in it. -/
theorem run_opened {offset : Nat} {state : State} {t : Text} {found : OpenQuote}
    (opened : (run offset state t).2.mode.unclosed = some found) :
    state.mode.unclosed = some found ∨
      offset ≤ found.position ∧ (t)[found.position - offset]? = some found.quote := by
  induction t generalizing offset state with
  | nil => exact .inl opened
  | cons c rest ih =>
    rcases ih opened with before | ⟨behind, quote⟩
    · rcases step_opened before with earlier | rfl
      · exact .inl earlier
      · exact .inr ⟨Nat.le_refl _, by simp⟩
    · refine .inr ⟨by omega, ?_⟩
      have next : found.position - offset = found.position - (offset + 1) + 1 := by omega
      rw [next, List.getElem?_cons_succ, quote]

private theorem quote_of_unclosed {line : Text} {found : OpenQuote} (opened : unclosed line = some found) :
    (line)[found.position]? = some found.quote := by
  rcases run_opened opened with before | ⟨-, quote⟩
  · cases before
  · exact quote

end Quotes

/-- Ranges in a line, none empty and each behind the one before. -/
structure Apart (line : Text) (ranges : List (Nat × Nat)) : Prop where
  inside : ∀ range ∈ ranges, range.1 < range.2 ∧ range.2 ≤ line.length
  order : ranges.Pairwise fun first second => first.2 ≤ second.1

theorem Apart.sublist {line : Text} {some_ranges ranges : List (Nat × Nat)} (apart : Apart line ranges)
    (part : some_ranges.Sublist ranges) : Apart line some_ranges :=
  ⟨fun range member => apart.inside range (part.subset member), apart.order.sublist part⟩

/-- An open quote lies behind all tokens: the word that it stands in is none of them. -/
theorem apart_of_line (line : Text) :
    Apart line ((Scan.ofLine line).tokens.map tokenRange ++
      openRanges line (Scan.ofLine line).unclosed) := by
  obtain ⟨same, stop, -, finds, finishes⟩ := exists_finds (Between.start line)
  have ordered := ScanSteps.ordered_ofText 0 line
  have tokens_apart : ((Scan.ofLine line).tokens.map tokenRange).Pairwise
      fun first second => first.2 ≤ second.1 := List.pairwise_map.mpr ordered.apart
  have bounded : ∀ range ∈ (Scan.ofLine line).tokens.map tokenRange,
      range.1 < range.2 ∧ range.2 ≤ stop := by
    intro range member
    obtain ⟨token, found, rfl⟩ := List.mem_map.mp member
    exact ⟨ordered.nonempty token found, finds.bounded token found⟩
  rw [show (Scan.ofLine line).unclosed = unclosed line from same]
  cases opened : unclosed line with
  | none =>
    rw [opened] at finishes
    obtain rfl : stop = line.length := finishes
    rw [openRanges, Option.toList_none, List.map_nil, List.append_nil]
    exact ⟨bounded, tokens_apart⟩
  | some found =>
    rw [opened] at finishes
    obtain ⟨-, above, below⟩ := finishes
    have last : openRanges line (some found) = [(found.position, line.length)] := rfl
    rw [last]
    refine ⟨List.forall_mem_append.mpr ⟨fun range member => ?_, ?_⟩,
      List.pairwise_append.mpr ⟨tokens_apart, List.pairwise_singleton _ _, ?_⟩⟩
    · have := bounded range member
      omega
    · simpa using below
    · intro first member second is_last
      obtain rfl := List.mem_singleton.mp is_last
      exact Nat.le_trans (bounded first member).2 above

/-- The spans of a line: not empty, in the line, in order and apart. Each is the range of a token, other
than the one of an open quote; no operator is left out, and no word where a command is expected. -/
structure WellFormed (around : Surroundings) (line : Text) (spans : List Span) : Prop where
  inside : ∀ span ∈ spans, span.start < span.stop ∧ span.stop ≤ line.length
  apart : spans.Pairwise fun first second => first.stop ≤ second.start
  ranges : spans.map spanRange =
    (styledTokens around true (Scan.ofLine line).tokens).map tokenRange ++
      openRanges line (Scan.ofLine line).unclosed
  tokens : (styledTokens around true (Scan.ofLine line).tokens).Sublist (Scan.ofLine line).tokens
  operators : ∀ token ∈ (Scan.ofLine line).tokens, token.kind ≠ .word →
    token ∈ styledTokens around true (Scan.ofLine line).tokens
  commands : ∀ token ∈ commandWords true (Scan.ofLine line).tokens,
    token ∈ styledTokens around true (Scan.ofLine line).tokens
  opening : ∀ found ∈ (Scan.ofLine line).unclosed,
    unclosed line = some found ∧ (line)[found.position]? = some found.quote

private theorem ranges_spans {settings : Settings} (styled : Styled settings) (lookups : Lookups)
    (around : Surroundings) (line : Text) :
    (lookups.spans settings around line).2.map spanRange =
      (styledTokens around true (Scan.ofLine line).tokens).map tokenRange ++
        openRanges line (Scan.ofLine line).unclosed := by
  have found := ranges_spansOfTokens styled around true lookups (Scan.ofLine line).tokens
    (ScanSteps.ordered_ofText 0 line).nonempty
  have inside := (apart_of_line line).inside
  cases opened : (Scan.ofLine line).unclosed with
  | none => simpa [Lookups.spans, opened, openRanges] using found
  | some quote =>
    have quoted : "string".toList ∈ roles := by simp [roles]
    have below : quote.position < line.length := by
      refine (inside (quote.position, line.length) ?_).1
      simp [openRanges, opened]
    have last := ranges_spanOf styled quoted below
    rw [Lookups.spans, opened, List.map_append, found, last]
    rfl

private theorem wellFormed_spans {settings : Settings} (styled : Styled settings) (lookups : Lookups)
    (around : Surroundings) (line : Text) :
    WellFormed around line (lookups.spans settings around line).2 := by
  have ranges := ranges_spans styled lookups around line
  have part := styledTokens_sublist around true (Scan.ofLine line).tokens
  have chosen := (apart_of_line line).sublist ((part.map tokenRange).append (List.Sublist.refl _))
  rw [← ranges] at chosen
  refine ⟨?_, ?_, ranges, part, operators_styled around true _, ?_, ?_⟩
  · exact fun span member => chosen.inside _ (List.mem_map_of_mem member)
  · exact List.pairwise_map.mp chosen.order
  · exact fun token member => (commandWords_styled around true _).subset member
  · intro found opened
    have same : unclosed line = some found := (unclosed_ofLine line).symm.trans opened
    exact ⟨same, quote_of_unclosed same⟩

def stretchRange (stretch : Stretch) : Nat × Nat := (stretch.start, stretch.stop)

private theorem ranges_mapM {spans : List Span} {stretches : List Stretch}
    (read : (spans.mapM fun span => do
      return (⟨span.start, span.stop, ← span.style.textStyle⟩ : Stretch)) = .ok stretches) :
    stretches.map stretchRange = spans.map spanRange := by
  induction spans generalizing stretches with
  | nil => cases read; rfl
  | cons span rest ih =>
    simp only [List.mapM_cons, LineParts.bind_eq_ok, LineParts.pure_eq_ok] at read
    obtain ⟨_, ⟨style, -, rfl⟩, later, others, rfl⟩ := read
    exact congrArg (spanRange span :: ·) (ih others)

private theorem ranges_styled {view : LineView} {drawn : StyledText} (shown : view.styled = .ok drawn) :
    drawn.text = Text.withoutControls view.text ∧
      drawn.stretches.map stretchRange = (view.spans.getD []).map spanRange := by
  simp only [LineView.styled, LineParts.bind_eq_ok, LineParts.pure_eq_ok] at shown
  obtain ⟨stretches, read, rfl⟩ := shown
  exact ⟨rfl, ranges_mapM read⟩

/-- Styling a line gives well formed spans, whatever the line is and whatever was looked up before, and
changes nothing but what is remembered of the lookups. -/
theorem spans_well_formed {shell : Shell} (styled : Styled shell.settings) (around : Surroundings)
    (line : Text) :
    ∃ lookups spans,
      (Shell.styleLine around line).on shell = (.ok spans, { shell with highlighter := some lookups }) ∧
      WellFormed around (Text.withoutControls line) spans ∧
      ∀ view : LineView, view.text = line → view.spans = some spans →
        ∀ drawn, view.styled = .ok drawn → drawn.text = Text.withoutControls line ∧
          drawn.stretches.map stretchRange = spans.map spanRange := by
  refine ⟨_, _, rfl, wellFormed_spans styled _ around _, ?_⟩
  intro view text spans drawn shown
  have same := ranges_styled shown
  rwa [text, spans, Option.getD_some] at same

/-- A command, an operator and a quote that nothing closes, in a folder with no files. -/
theorem spans_of_open_line :
    Styled bareShell.settings ∧
    ∃ lookups spans, (Shell.styleLine bareShell.around "ls | \"a b").on bareShell =
        (.ok spans, { bareShell with highlighter := some lookups }) ∧
      spans.map spanRange = [(0, 2), (3, 4), (5, 9)] := by
  have styled : Styled bareShell.settings := by unfold Styled; decide +kernel
  refine ⟨styled, ?_⟩
  obtain ⟨lookups, spans, ran, formed, -⟩ := spans_well_formed styled bareShell.around "ls | \"a b"
  refine ⟨lookups, spans, ran, formed.ranges.trans ?_⟩
  decide +kernel

end CommandShell.Proofs.SpanRanges
