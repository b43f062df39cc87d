import CommandShell.Proofs.LineMarks

/-! Which stretches of a line are tokens, said from the marks of its characters alone. A scan that
starts anew at every word finds exactly these, up to the word that is not closed. -/

namespace CommandShell.Proofs.TokenSpans
open Scan ScanSteps LineMarks

/-- A run of word characters that cannot be made longer. -/
structure IsRun (marks : List Mark) (start stop : Nat) : Prop where
  nonempty : start < stop
  inside : ∀ i, start ≤ i → i < stop → marks[i]? = some .word
  before : ∀ i, i + 1 = start → marks[i]? ≠ some .word
  behind : marks[stop]? ≠ some .word

abbrev IsArrow (marks : List Mark) (i : Nat) : Prop := marks[i]? = some (.operator .writeTo)

def arrowsBefore (marks : List Mark) : Nat → Nat
  | 0 => 0
  | i + 1 => if IsArrow marks i then arrowsBefore marks i + 1 else 0

/-- Where a token of each kind stands. Arrows are paired from the left, so a token of arrows has an
even number of them before it. -/
def Spans (marks : List Mark) (start stop : Nat) : TokenKind → Prop
  | .word => IsRun marks start stop
  | .appendTo => stop = start + 2 ∧ IsArrow marks start ∧ IsArrow marks (start + 1) ∧
      arrowsBefore marks start % 2 = 0
  | .writeTo => stop = start + 1 ∧ IsArrow marks start ∧ ¬ IsArrow marks (start + 1) ∧
      arrowsBefore marks start % 2 = 0
  | kind => stop = start + 1 ∧ marks[start]? = some (.operator kind)

structure IsReference (line : Text) (token : Token) : Prop where
  text : token.text = line.extract token.start token.stop
  spans : Spans (marks line) token.start token.stop token.kind

theorem IsRun.unique {marks : List Mark} {start stop start' stop' i : Nat}
    (first : IsRun marks start stop) (second : IsRun marks start' stop')
    (inside : start ≤ i ∧ i < stop) (also : start' ≤ i ∧ i < stop') :
    start = start' ∧ stop = stop' := by
  constructor
  · rcases Nat.lt_trichotomy start start' with less | same | more
    · exact absurd (first.inside (start' - 1) (by omega) (by omega))
        (second.before (start' - 1) (by omega))
    · exact same
    · exact absurd (second.inside (start - 1) (by omega) (by omega))
        (first.before (start - 1) (by omega))
  · rcases Nat.lt_trichotomy stop stop' with less | same | more
    · exact absurd (second.inside stop (by omega) less) first.behind
    · exact same
    · exact absurd (first.inside stop' (by omega) more) second.behind

/-- Any character of a token determines the token, up to the length of a word: a word by its run, a
pair of arrows by how many arrows stand before it, and any other sign by itself. -/
theorem Spans.determined {marks : List Mark} {start stop i : Nat} {kind : TokenKind}
    (spans : Spans marks start stop kind) (inside : start ≤ i ∧ i < stop) :
    (marks[i]? = some .word ∧ kind = .word) ∨
    (IsArrow marks i ∧ start + arrowsBefore marks i % 2 = i ∧
      (IsArrow marks (start + 1) ∧ kind = .appendTo ∧ stop = start + 2 ∨
        ¬ IsArrow marks (start + 1) ∧ kind = .writeTo ∧ stop = start + 1)) ∨
    (marks[i]? = some (.operator kind) ∧ kind ≠ .writeTo ∧ start = i ∧ stop = i + 1) := by
  cases kind with
  | word => exact .inl ⟨spans.inside i inside.1 inside.2, rfl⟩
  | appendTo =>
    obtain ⟨rfl, arrow, second, even⟩ := spans
    refine .inr (.inl ?_)
    rcases Nat.eq_or_lt_of_le inside.1 with rfl | later
    · exact ⟨arrow, by omega, .inl ⟨second, rfl, rfl⟩⟩
    · obtain rfl : i = start + 1 := by omega
      refine ⟨second, ?_, .inl ⟨second, rfl, rfl⟩⟩
      rw [arrowsBefore, if_pos arrow]
      omega
  | writeTo =>
    obtain ⟨rfl, arrow, alone, even⟩ := spans
    obtain rfl : i = start := by omega
    exact .inr (.inl ⟨arrow, by omega, .inr ⟨alone, rfl, rfl⟩⟩)
  | pipe | readFrom | background | semicolon =>
    obtain ⟨rfl, sign⟩ := spans
    obtain rfl : i = start := by omega
    exact .inr (.inr ⟨sign, by simp, rfl, rfl⟩)

theorem Spans.unique {marks : List Mark} {start stop start' stop' i : Nat} {kind kind' : TokenKind}
    (first : Spans marks start stop kind) (second : Spans marks start' stop' kind')
    (inside : start ≤ i ∧ i < stop) (also : start' ≤ i ∧ i < stop') :
    kind = kind' ∧ start = start' ∧ stop = stop' := by
  rcases first.determined inside with ⟨mark, rfl⟩ | ⟨mark, begins, shape⟩ | ⟨mark, single, rfl, rfl⟩
  · have other : kind' = .word := by
      rcases second.determined also with ⟨_, word⟩ | ⟨arrow, _⟩ | ⟨sign, _⟩
      · exact word
      · cases mark.symm.trans arrow
      · cases mark.symm.trans sign
    subst other
    exact ⟨rfl, IsRun.unique first second inside also⟩
  · rcases second.determined also with ⟨word, _⟩ | ⟨_, begins', shape'⟩ | ⟨sign, single, _⟩
    · cases mark.symm.trans word
    · obtain rfl : start = start' := by omega
      rcases shape with ⟨arrow, rfl, rfl⟩ | ⟨alone, rfl, rfl⟩ <;>
        rcases shape' with ⟨arrow', rfl, rfl⟩ | ⟨alone', rfl, rfl⟩
      · exact ⟨rfl, rfl, rfl⟩
      · exact absurd arrow alone'
      · exact absurd arrow' alone
      · exact ⟨rfl, rfl, rfl⟩
    · cases mark.symm.trans sign
      exact absurd rfl single
  · rcases second.determined also with ⟨word, _⟩ | ⟨arrow, _⟩ | ⟨sign, _, rfl, rfl⟩
    · cases mark.symm.trans word
    · cases mark.symm.trans arrow
      exact absurd rfl single
    · cases mark.symm.trans sign
      exact ⟨rfl, rfl, rfl⟩

theorem IsReference.unique {line : Text} {first second : Token} (one : IsReference line first)
    (other : IsReference line second) {i : Nat} (inside : first.start ≤ i ∧ i < first.stop)
    (also : second.start ≤ i ∧ i < second.stop) : first = second := by
  obtain ⟨kind, start, stop⟩ := one.spans.unique other.spans inside also
  have text : first.text = second.text := by rw [one.text, other.text, start, stop]
  cases first
  cases second
  simp_all

/-- Where a scan stands between two tokens of a line. The pass is outside of quotes there, no word
goes on, and the arrows before it are paired off. -/
structure Between (line : Text) (offset : Nat) (t : Text) : Prop where
  length : offset + t.length = line.length
  text : line.drop offset = t
  pass : (marks line).drop offset = (run offset {} t).1
  state : unclosed line = (run offset {} t).2.mode.unclosed
  apart : ∀ i, i + 1 = offset → (marks line)[i]? = some .word → (marks line)[offset]? ≠ some .word
  arrows : IsArrow (marks line) offset → arrowsBefore (marks line) offset % 2 = 0

theorem Between.start (line : Text) : Between line 0 line :=
  ⟨Nat.zero_add _, rfl, rfl, rfl, by simp, fun _ => rfl⟩

theorem Between.mark {line : Text} {offset : Nat} {t : Text} (stands : Between line offset t) (i : Nat) :
    (marks line)[offset + i]? = (run offset {} t).1[i]? := by
  rw [← List.getElem?_drop, stands.pass]

theorem Between.head_mark {line t : Text} {offset : Nat} {mark : Mark} {more : List Mark}
    {result : List Mark × State} (stands : Between line offset t)
    (passed : run offset {} t = after (mark :: more) result) : (marks line)[offset]? = some mark := by
  have here := stands.mark 0
  rwa [passed] at here

theorem Between.extract {line : Text} {offset : Nat} (front rest : Text)
    (stands : Between line offset (front ++ rest)) :
    line.extract offset (offset + front.length) = front := by
  rw [List.extract_eq_take_drop, stands.text, Nat.add_sub_cancel_left, List.take_left]

theorem Between.advance {line rest : Text} {offset : Nat} (front : Text) {found : List Mark}
    (stands : Between line offset (front ++ rest)) (length : found.length = front.length)
    (passed : run offset {} (front ++ rest) = after found (run (offset + front.length) {} rest))
    (apart : ∀ i, i + 1 = offset + front.length → (marks line)[i]? = some .word →
      (marks line)[offset + front.length]? ≠ some .word)
    (arrows : IsArrow (marks line) (offset + front.length) →
      arrowsBefore (marks line) (offset + front.length) % 2 = 0) :
    Between line (offset + front.length) rest := by
  refine ⟨?_, ?_, ?_, ?_, apart, arrows⟩
  · have whole := stands.length
    simp only [List.length_append] at whole
    omega
  · rw [← List.drop_drop, stands.text, List.drop_left]
  · rw [← List.drop_drop, stands.pass, passed, after, ← length, List.drop_left]
  · rw [stands.state, passed, after]

theorem Between.blank {line rest : Text} {offset : Nat} {c : Char}
    (stands : Between line offset (c :: rest)) (space : isSpace c = true) :
    (marks line)[offset]? = some .blank ∧ Between line (offset + 1) rest := by
  have passed := run_blank space offset rest
  have mark := stands.head_mark passed
  refine ⟨mark, stands.advance [c] rfl passed ?_ ?_⟩
  · intro i same word
    obtain rfl := Nat.add_right_cancel same
    cases mark.symm.trans word
  · intro _
    simp [arrowsBefore, IsArrow, mark]

theorem Between.sign {line rest : Text} {offset : Nat} {c : Char} {kind : TokenKind}
    (stands : Between line offset (c :: rest)) (sign : operator? c = some kind)
    (single : c = '>' → rest.head? ≠ some '>') :
    IsReference line ⟨kind, [c], offset⟩ ∧ Between line (offset + 1) rest := by
  have passed := run_sign sign offset rest
  have mark := stands.head_mark passed
  have alone : IsArrow (marks line) offset → ¬ IsArrow (marks line) (offset + 1) := by
    intro arrow next
    have same : kind = .writeTo := by simpa [IsArrow, mark] using arrow
    have next := (stands.mark 1).symm.trans next
    rw [passed] at next
    exact single (eq_arrow (same ▸ sign)) (head_of_arrow next)
  refine ⟨⟨(stands.extract [c] rest).symm, ?_⟩, stands.advance [c] rfl passed ?_ ?_⟩
  · cases kind with
    | word | appendTo => unfold operator? at sign; split at sign <;> cases sign
    | writeTo => exact ⟨rfl, mark, alone mark, stands.arrows mark⟩
    | pipe | readFrom | background | semicolon => exact ⟨rfl, mark⟩
  · intro i same word
    obtain rfl := Nat.add_right_cancel same
    cases mark.symm.trans word
  · intro next
    have before : ¬ IsArrow (marks line) offset := fun arrow => alone arrow next
    show arrowsBefore (marks line) (offset + 1) % 2 = 0
    rw [arrowsBefore, if_neg before]

/-- Two arrows in a row leave as many before what follows as before, up to a pair. -/
theorem Between.pair {line rest : Text} {offset : Nat}
    (stands : Between line offset ('>' :: '>' :: rest)) :
    IsReference line ⟨.appendTo, ['>', '>'], offset⟩ ∧ Between line (offset + 2) rest := by
  have passed := run_pair offset rest
  have first : IsArrow (marks line) offset := stands.head_mark passed
  have second : IsArrow (marks line) (offset + 1) := by
    have mark := stands.mark 1
    rwa [passed] at mark
  have even := stands.arrows first
  refine ⟨⟨(stands.extract ['>', '>'] rest).symm, rfl, first, second, even⟩,
    stands.advance ['>', '>'] rfl passed ?_ ?_⟩
  · intro i same word
    obtain rfl : i = offset + 1 := Nat.add_right_cancel same
    cases second.symm.trans word
  · intro _
    show arrowsBefore (marks line) (offset + 2) % 2 = 0
    rw [arrowsBefore, if_pos second, arrowsBefore, if_pos first]
    omega

theorem Between.word_at {line t : Text} {offset n : Nat} {result : List Mark × State}
    (stands : Between line offset t) (passed : run offset {} t = after (List.replicate n .word) result)
    {i : Nat} (above : offset ≤ i) (below : i < offset + n) : (marks line)[i]? = some .word := by
  have mark := stands.mark (i - offset)
  rw [passed, after, List.getElem?_append_left (by simp; omega),
    List.getElem?_replicate_of_lt (by omega), Nat.add_sub_cancel' above] at mark
  exact mark

theorem Between.whole_word {line rest text later : Text} {offset : Nat} {c : Char}
    (stands : Between line offset (c :: rest)) (no_space : isSpace c = false)
    (no_sign : operator? c = none) (read : word none offset (c :: rest) = .ok (text, later)) :
    IsReference line ⟨.word, text, offset⟩ ∧ Between line (offset + text.length) later := by
  obtain ⟨passed, stops⟩ := run_of_word (show word Mode.plain.unclosed offset _ = _ from read)
  have split : text ++ later = c :: rest := append_of_word read
  have shorter : later.length < (c :: rest).length :=
    length_lt_of_word (by simp [no_space, no_sign]) read
  rw [← split, List.length_append] at shorter
  rw [← split] at stands passed
  have inside (i : Nat) (above : offset ≤ i) (below : i < offset + text.length) :
      (marks line)[i]? = some .word := stands.word_at passed above below
  have behind : (marks line)[offset + text.length]? ≠ some .word := by
    rw [stands.mark, passed, after, List.getElem?_append_right (by simp), List.length_replicate,
      Nat.sub_self]
    exact head_of_stops stops
  have run : IsRun (marks line) offset (offset + text.length) := by
    refine ⟨by omega, inside, ?_, behind⟩
    intro i same before
    exact stands.apart i same before (inside offset (Nat.le_refl _) (by omega))
  refine ⟨⟨(stands.extract text later).symm, run⟩,
    stands.advance text (List.length_replicate ..) passed (fun _ _ _ => behind) ?_⟩
  intro _
  obtain ⟨last, same⟩ : ∃ last, offset + text.length = last + 1 :=
    ⟨offset + text.length - 1, by omega⟩
  have word := inside last (by omega) (by omega)
  rw [same, arrowsBefore, if_neg (by simp [IsArrow, word])]

/-- Tokens that were found up to an offset, with nothing but blanks between them. -/
structure Finds (line : Text) (offset stop : Nat) (tokens : List Token) : Prop where
  references : ∀ token ∈ tokens, IsReference line token
  bounded : ∀ token ∈ tokens, token.stop ≤ stop
  covers : ∀ i, offset ≤ i → i < stop → (marks line)[i]? = some .blank ∨
    ∃ token ∈ tokens, token.start ≤ i ∧ i < token.stop

theorem Finds.nil (line : Text) (offset : Nat) : Finds line offset offset [] :=
  ⟨by simp, by simp, fun i above below => absurd below (Nat.not_lt.mpr above)⟩

theorem Finds.blank {line : Text} {offset stop : Nat} {tokens : List Token}
    (finds : Finds line (offset + 1) stop tokens) (mark : (marks line)[offset]? = some .blank) :
    Finds line offset stop tokens := by
  refine ⟨finds.references, finds.bounded, fun i above below => ?_⟩
  rcases Nat.eq_or_lt_of_le above with rfl | later
  · exact .inl mark
  · exact finds.covers i later below

theorem Finds.cons {line : Text} {stop : Nat} {token : Token} {tokens : List Token}
    (finds : Finds line token.stop stop tokens) (reference : IsReference line token)
    (bounded : token.stop ≤ stop) : Finds line token.start stop (token :: tokens) := by
  refine ⟨?_, ?_, fun i above below => ?_⟩
  · intro other member
    rcases List.mem_cons.mp member with rfl | later
    · exact reference
    · exact finds.references other later
  · intro other member
    rcases List.mem_cons.mp member with rfl | later
    · exact bounded
    · exact finds.bounded other later
  · by_cases inside : i < token.stop
    · exact .inr ⟨token, by simp, above, inside⟩
    · rcases finds.covers i (Nat.not_lt.mp inside) below with blank | ⟨other, member, covered⟩
      · exact .inl blank
      · exact .inr ⟨other, by simp [member], covered⟩

/-- Where the tokens end: with the line, or before the word that holds the open quote. -/
def Finishes (line : Text) (stop : Nat) : Option OpenQuote → Prop
  | none => stop = line.length
  | some found => IsRun (marks line) stop line.length ∧ stop ≤ found.position ∧
      found.position < line.length

/-- A word that is not closed takes all that is left of the line. -/
theorem Between.open_word {line rest : Text} {offset : Nat} {c : Char} {found : OpenQuote}
    (stands : Between line offset (c :: rest)) (read : word none offset (c :: rest) = .error found) :
    unclosed line = some found ∧ Finishes line offset (some found) := by
  obtain ⟨passed, ends, opened⟩ :=
    run_of_unclosed (show word Mode.plain.unclosed offset _ = _ from read)
  have length := stands.length
  have inside (i : Nat) (above : offset ≤ i) (below : i < line.length) :
      (marks line)[i]? = some .word := by
    have mark := stands.mark (i - offset)
    rwa [passed, List.getElem?_replicate_of_lt (by omega), Nat.add_sub_cancel' above] at mark
  have start : offset < line.length := by
    rw [List.length_cons] at length
    omega
  refine ⟨stands.state.trans ends, ⟨start, inside, ?_, ?_⟩, ?_⟩
  · intro i same before
    exact stands.apart i same before (inside offset (Nat.le_refl _) start)
  · rw [List.getElem?_eq_none (Nat.le_of_eq (length_marks line))]
    simp
  · rcases opened with plain | position
    · cases plain
    · rwa [length] at position

theorem single_of_not_pair {c : Char} {rest : Text}
    (not_pair : ∀ more : Text, c = '>' → rest = '>' :: more → False) :
    c = '>' → rest.head? ≠ some '>' := by
  intro arrow head
  obtain ⟨more, same⟩ := List.head?_eq_some_iff.mp head
  exact not_pair more arrow same

/-- The scan, begun anew between two tokens, finds what the one pass says of the rest of the line. -/
theorem exists_finds {line t : Text} {offset : Nat} (stands : Between line offset t) :
    (ofText offset t).unclosed = unclosed line ∧
    ∃ stop, offset ≤ stop ∧ Finds line offset stop (ofText offset t).tokens ∧
      Finishes line stop (unclosed line) := by
  fun_induction ofText offset t with
  | case1 offset =>
    have closed : unclosed line = none := stands.state
    refine ⟨closed.symm, offset, Nat.le_refl _, .nil line offset, ?_⟩
    rw [closed]
    exact stands.length
  | case2 offset rest ih =>
    obtain ⟨reference, next⟩ := stands.pair
    obtain ⟨same, stop, above, finds, finishes⟩ := ih next
    exact ⟨same, stop, by omega, finds.cons reference above, finishes⟩
  | case3 offset c rest not_pair space ih =>
    obtain ⟨mark, next⟩ := stands.blank space
    obtain ⟨same, stop, above, finds, finishes⟩ := ih next
    exact ⟨same, stop, by omega, finds.blank mark, finishes⟩
  | case4 offset c rest not_pair space kind sign ih =>
    obtain ⟨reference, next⟩ := stands.sign sign (single_of_not_pair not_pair)
    obtain ⟨same, stop, above, finds, finishes⟩ := ih next
    exact ⟨same, stop, by omega, finds.cons reference above, finishes⟩
  | case5 offset c rest not_pair space no_sign found read =>
    obtain ⟨same, finishes⟩ := stands.open_word read
    refine ⟨same.symm, offset, Nat.le_refl _, .nil line offset, ?_⟩
    rwa [same]
  | case6 offset c rest not_pair space no_sign text later read ih =>
    obtain ⟨reference, next⟩ := stands.whole_word (by simpa using space) no_sign read
    obtain ⟨same, stop, above, finds, finishes⟩ := ih next
    exact ⟨same, stop, by omega, finds.cons reference above, finishes⟩

theorem unclosed_ofLine (line : Text) : (Scan.ofLine line).unclosed = unclosed line :=
  (exists_finds (Between.start line)).1

theorem Spans.start {marks : List Mark} {start stop : Nat} {kind : TokenKind}
    (spans : Spans marks start stop kind) :
    start < stop ∧ start < marks.length ∧ marks[start]? ≠ some .blank := by
  obtain ⟨mark, found, apart, nonempty⟩ :
      ∃ mark, marks[start]? = some mark ∧ mark ≠ .blank ∧ start < stop := by
    cases kind with
    | word => exact ⟨_, spans.inside start (Nat.le_refl _) spans.nonempty, by simp, spans.nonempty⟩
    | appendTo | writeTo => exact ⟨_, spans.2.1, by simp, by have := spans.1; omega⟩
    | pipe | readFrom | background | semicolon =>
      exact ⟨_, spans.2, by simp, by have := spans.1; omega⟩
  refine ⟨nonempty, (List.getElem?_eq_some_iff.mp found).1, ?_⟩
  rw [found]
  simpa using apart

/-- No token of the line is left behind the end, other than the word that holds the open quote. -/
theorem Finishes.above {line : Text} {stop : Nat} {opened : Option OpenQuote} {token : Token}
    (finishes : Finishes line stop opened) (reference : IsReference line token)
    (before : ∀ found ∈ opened, token.stop ≤ found.position) : token.start < stop := by
  obtain ⟨nonempty, inside, -⟩ := reference.spans.start
  have inside : token.start < line.length := Nat.lt_of_lt_of_eq inside (length_marks line)
  cases opened with
  | none => exact Nat.lt_of_lt_of_eq inside finishes.symm
  | some found =>
    obtain ⟨run, -, position⟩ := finishes
    -- A token from the end on would be the word that is not closed, which reaches past its quote.
    have last : Spans (marks line) stop line.length .word := run
    rcases Nat.lt_or_ge token.start stop with below | above
    · exact below
    · obtain ⟨-, -, same⟩ :=
        reference.spans.unique last ⟨Nat.le_refl _, nonempty⟩ ⟨above, inside⟩
      have := before found rfl
      omega

/-- A scan that agrees with the one pass: it stops at the same open quote, its tokens are those of
the line up to there, in order, and nothing but spaces is left out of them. -/
structure Agrees (line : Text) (scan : Scan) : Prop where
  unclosed : scan.unclosed = LineMarks.unclosed line
  tokens : ∀ token, token ∈ scan.tokens ↔ IsReference line token ∧
    ∀ found ∈ LineMarks.unclosed line, token.stop ≤ found.position
  order : scan.tokens.Pairwise fun first second => first.stop ≤ second.start
  spaces : LineMarks.unclosed line = none → ∀ i c, (line)[i]? = some c →
    (∀ token ∈ scan.tokens, ¬ (token.start ≤ i ∧ i < token.stop)) → isSpace c = true

/-- The scan of a line is what one pass over the whole line says it is. -/
theorem ofLine_agrees (line : Text) : Agrees line (Scan.ofLine line) := by
  obtain ⟨same, stop, -, finds, finishes⟩ := exists_finds (Between.start line)
  refine ⟨same, fun token => ⟨fun member => ⟨finds.references token member, ?_⟩, ?_⟩,
    (ordered_ofText 0 line).apart, ?_⟩
  · intro found opened
    rw [Option.mem_def.mp opened] at finishes
    exact Nat.le_trans (finds.bounded token member) finishes.2.1
  · rintro ⟨reference, before⟩
    obtain ⟨nonempty, -, apart⟩ := reference.spans.start
    have below := finishes.above reference before
    rcases finds.covers token.start (Nat.zero_le _) below with blank | ⟨other, member, covered⟩
    · exact absurd blank apart
    · rwa [reference.unique (finds.references other member) ⟨Nat.le_refl _, nonempty⟩ covered]
  · intro closed i c here uncovered
    rw [closed] at finishes
    have below : i < line.length := (List.getElem?_eq_some_iff.mp here).1
    rcases finds.covers i (Nat.zero_le _) (Nat.lt_of_lt_of_eq below finishes.symm) with
      blank | ⟨token, member, covered⟩
    · exact isSpace_of_blank here blank
    · exact absurd covered (uncovered token member)

end CommandShell.Proofs.TokenSpans
