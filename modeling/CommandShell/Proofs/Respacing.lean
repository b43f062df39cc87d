import CommandShell.Proofs.JobWriting
import CommandShell.Proofs.JoinedLines

/-! A line whose tokens stand one space apart. Such a line is a normal form: it has the tokens of the line
that it was made from, whatever stood between them there, and making it again changes nothing. -/

namespace CommandShell.Proofs.Respacing
open JobAccount JobWriting JoinedLines Scan ScanSteps

def respaced (line : Text) : Text := Text.join " " ((Scan.ofLine line).tokens.map Token.text)

def written (token : Token) : TokenKind × Text := (token.kind, token.text)

/-- A word that is found in one text is found where it stands elsewhere. A backslash that stood at the end
of the line must stand there again. -/
def Again (opened opened' : Option OpenQuote) (offset offset' : Nat) (t rest : Text) : Prop :=
  ∀ text later : Text, word opened offset t = .ok (text, later) → (later = [] → rest = []) →
    word opened' offset' (text ++ rest) = .ok (text, rest)

theorem Again.front {opened opened' next next' : Option OpenQuote} {offset offset' : Nat} {t rest : Text}
    (front : Text) (again : Again next next' (offset + front.length) (offset' + front.length) t rest)
    (scan : word opened offset (front ++ t) = (word next (offset + front.length) t).map (word.add front))
    (scan' : ∀ inner later, word next (offset + front.length) t = .ok (inner, later) →
      (later = [] → rest = []) → word opened' offset' (front ++ (inner ++ rest)) =
        (word next' (offset' + front.length) (inner ++ rest)).map (word.add front)) :
    Again opened opened' offset offset' (front ++ t) rest := by
  intro text later read ends
  rw [scan] at read
  obtain ⟨⟨inner, later⟩, reads, same⟩ := exists_of_map_add read
  cases same
  rw [List.append_assoc, scan' inner later reads ends, again inner later reads ends]
  rfl

/-- A word is read again wherever it stands, if what is behind it does not go on with it. -/
theorem word_again {opened opened' : Option OpenQuote} {offset offset' : Nat} {t rest : Text}
    (alike : opened'.map OpenQuote.quote = opened.map OpenQuote.quote) (stops : Stops rest) :
    Again opened opened' offset offset' t rest := by
  fun_induction word opened offset t generalizing opened' offset' with
  | case1 =>
    obtain rfl := Option.map_eq_none_iff.mp alike
    intro text later read _
    cases read
    exact word_stops stops offset'
  | case2 =>
    intro text later read
    cases read
  | case3 offset c behind halts =>
    obtain rfl := Option.map_eq_none_iff.mp alike
    intro text later read _
    rw [word_stops (by simpa [Stops] using halts)] at read
    cases read
    exact word_stops stops offset'
  | case4 offset c behind apart quote ih =>
    obtain rfl := Option.map_eq_none_iff.mp alike
    exact (@ih (some ⟨c, offset'⟩) (offset' + 1) rfl).front [c] (word_open quote offset behind)
      fun _ _ _ _ => word_open quote offset' _
  | case5 offset d behind apart no_quote ih =>
    obtain rfl := Option.map_eq_none_iff.mp alike
    exact (@ih none (offset' + 2) rfl).front ['\\', d] (word_escape offset d behind)
      fun _ _ _ _ => word_escape offset' d _
  | case6 offset c behind last apart no_quote ih =>
    obtain rfl := Option.map_eq_none_iff.mp alike
    obtain ⟨no_space, no_sign⟩ : isSpace c = false ∧ operator? c = none := by simpa using apart
    have ordinary : isQuote c = false := by simpa using no_quote
    refine (@ih none (offset' + 1) rfl).front [c]
      (word_ordinary no_space no_sign ordinary (nil_of_unpaired last) offset) fun inner later reads ends =>
      word_ordinary no_space no_sign ordinary (fun backslash => ?_) offset'
    obtain rfl := nil_of_unpaired last backslash
    cases reads
    exact ends rfl
  | case7 offset behind region ih =>
    obtain ⟨region', rfl, quote⟩ := Option.map_eq_some_iff.mp alike
    refine (@ih none (offset' + 1) rfl).front [region.quote] (word_close region offset behind)
      fun _ _ _ _ => ?_
    rw [← quote]
    exact word_close region' offset' _
  | case8 offset region d behind double outside ih =>
    obtain ⟨region', rfl, quote⟩ := Option.map_eq_some_iff.mp alike
    exact (@ih (some region') (offset' + 2) alike).front ['\\', d]
      (word_inside_escape double offset d behind)
      fun _ _ _ _ => word_inside_escape (quote.trans double) offset' d _
  | case9 offset region d behind single outside ih =>
    obtain ⟨region', rfl, quote⟩ := Option.map_eq_some_iff.mp alike
    refine (@ih (some region') (offset' + 1) alike).front ['\\']
      (word_inside_ordinary outside (fun double => absurd double single) offset) fun _ _ _ _ => ?_
    rw [← quote] at single outside
    exact word_inside_ordinary outside (fun double => absurd double single) offset'
  | case10 offset region c behind last inside ih =>
    obtain ⟨region', rfl, quote⟩ := Option.map_eq_some_iff.mp alike
    refine (@ih (some region') (offset' + 1) alike).front [c]
      (word_inside_ordinary inside (fun _ => nil_of_unpaired last) offset) fun _ _ reads _ => ?_
    have ordinary : c ≠ '\\' := by
      intro backslash
      obtain rfl := nil_of_unpaired last backslash
      cases reads
    rw [← quote] at inside
    exact word_inside_ordinary inside (fun _ backslash => absurd backslash ordinary) offset'

/-- Nothing, or something that begins with a space. -/
def Parted (rest : Text) : Prop := ∀ c ∈ rest.head?, isSpace c = true

private theorem parted_spaced (pieces : List Text) : Parted (spaced pieces) := by
  cases pieces with
  | nil => nofun
  | cons piece pieces =>
    rintro _ ⟨⟩
    rfl

/-- A text that is found as one token, wherever it stands. -/
theorem spells_once {behind : Text → Prop} (token : Token)
    (found : ∀ offset rest, behind rest → ofText offset (token.text ++ rest) =
      cons ⟨token.kind, token.text, offset⟩ (ofText (offset + token.text.length) rest)) :
    Spells behind token.text (·.map written = [written token]) :=
  fun offset rest follows => ⟨[⟨token.kind, token.text, offset⟩], rfl, found offset rest follows⟩

theorem spells_next {between : Text → Prop} {token : Token} {tokens : List Token}
    (front : Spells between token.text (·.map written = [written token]))
    (back : Spells (· = []) (spaced (tokens.map Token.text)) (·.map written = tokens.map written))
    (meets : between (spaced (tokens.map Token.text))) :
    Spells (· = []) (spaced ((token :: tokens).map Token.text))
      (·.map written = (token :: tokens).map written) := by
  have whole := spells_spaced front back (by rintro _ rfl; rwa [List.append_nil])
  apply whole.imp
  rintro _ ⟨first, others, rfl, one, rest⟩
  rw [List.map_append, one, rest]
  rfl

private theorem spells_tokens {offset : Nat} {t : Text} (closed : (ofText offset t).unclosed = none) :
    Spells (· = []) (spaced ((ofText offset t).tokens.map Token.text))
      (·.map written = (ofText offset t).tokens.map written) := by
  fun_induction ofText offset t with
  | case1 => exact fun offset rest _ => ⟨[], rfl, rfl⟩
  | case2 offset rest ih =>
    have pair := @spells_once Anything ⟨.appendTo, ['>', '>'], offset⟩ fun offset rest _ =>
      ofText_pair offset rest
    exact spells_next pair (ih closed) trivial
  | case3 offset c rest not_pair space ih => exact ih closed
  | case4 offset c rest not_pair space kind sign ih =>
    have alone := @spells_once Parted ⟨kind, [c], offset⟩ fun offset rest parted => by
      refine ofText_sign sign (fun arrow head => ?_) offset
      have space := parted '>' head
      cases space
    exact spells_next alone (ih closed) (parted_spaced _)
  | case5 => cases closed
  | case6 offset c rest not_pair space apart text later read ih =>
    have no_space : isSpace c = false := by simpa using space
    have shorter := length_lt_of_word (by simp [no_space, apart]) read
    have whole : text ++ later = c :: rest := append_of_word read
    -- A backslash at the end of the line is in the last token, so nothing stands behind it here either.
    have again := @spells_once (fun rest => Parted rest ∧ (later = [] → rest = [])) ⟨.word, text, offset⟩
      fun offset rest follows => by
        have reads : word none offset (text ++ rest) = .ok (text, rest) :=
          word_again rfl (fun c head => .inl (follows.1 c head)) text later read follows.2
        cases text with
        | nil => exact absurd (congrArg List.length whole) (Nat.ne_of_lt shorter)
        | cons d more =>
          obtain rfl : d = c := List.head_eq_of_cons_eq whole
          exact ofText_word no_space apart reads
    refine spells_next again (ih closed) ⟨parted_spaced _, ?_⟩
    rintro rfl
    rw [ofText_nil]
    rfl

private theorem spaced_cons (piece : Text) (pieces : List Text) :
    spaced (piece :: pieces) = ' ' :: Text.join " " (piece :: pieces) := by
  rw [join_cons]
  rfl

/-- The tokens of a line are found again where they stand one space apart. -/
theorem scan_respaced {line : Text} (closed : (Scan.ofLine line).unclosed = none) :
    (Scan.ofLine (respaced line)).unclosed = none ∧
      (Scan.ofLine (respaced line)).tokens.map written = (Scan.ofLine line).tokens.map written := by
  have spells : Spells (· = []) (spaced ((Scan.ofLine line).tokens.map Token.text))
    (·.map written = (Scan.ofLine line).tokens.map written) := spells_tokens closed
  obtain ⟨tokens, same, found⟩ := spells 0 [] rfl
  rw [List.append_nil, ofText_nil, prepend, List.append_nil] at found
  rw [← same]
  unfold respaced
  generalize (Scan.ofLine line).tokens.map Token.text = pieces at found ⊢
  cases pieces with
  | nil =>
    rw [spaced, List.flatMap_nil, ofText_nil] at found
    obtain ⟨rfl, -⟩ := Scan.mk.inj found
    have blank : Scan.ofLine (Text.join " " []) = { tokens := [] } := ofText_nil 0
    rw [blank]
    exact ⟨rfl, rfl⟩
  | cons piece pieces =>
    -- The one space in front of all of it moves the tokens and is not there in the line.
    rw [spaced_cons, ofText_space rfl, ← Nat.add_zero (0 + 1), ofText_moved] at found
    obtain ⟨moved, nothing⟩ := Scan.mk.inj found
    rw [← moved, List.map_map]
    exact ⟨Option.map_eq_none_iff.mp nothing, rfl⟩

private theorem ofTokens_written {first second : List Token} (same : first.map written = second.map written) :
    (Job.ofTokens first).pipelines = (Job.ofTokens second).pipelines ∧
      (Job.ofTokens first).diagnostics.map Diagnostic.misfit =
        (Job.ofTokens second).diagnostics.map Diagnostic.misfit := by
  have nowhere (tokens : List Token) : tokens.map (tokenAt fun _ => 0) =
      (tokens.map written).map fun token => ⟨token.1, token.2, 0⟩ := by
    rw [List.map_map]
    rfl
  have jobs := congrArg Job.ofTokens ((nowhere first).trans (same ▸ (nowhere second).symm))
  rw [ofTokens_at, ofTokens_at] at jobs
  obtain ⟨pipelines, diagnostics⟩ := Job.mk.inj jobs
  refine ⟨pipelines, ?_⟩
  have misfits := congrArg (List.map Diagnostic.misfit) diagnostics
  rwa [List.map_map, List.map_map] at misfits

/-- The texts of the tokens of a line, one space apart, are a normal form of it. They are read as the same
tokens and the same job with the same messages, and have themselves as their normal form. -/
theorem respaced_is_normal {line : Text} (closed : (Scan.ofLine line).unclosed = none) :
    (Scan.ofLine (respaced line)).unclosed = none ∧
      (Scan.ofLine (respaced line)).tokens.map written = (Scan.ofLine line).tokens.map written ∧
      (∃ job again, Job.ofLine line = .ok job ∧ Job.ofLine (respaced line) = .ok again ∧
        again.pipelines = job.pipelines ∧
        again.diagnostics.map (·.misfit.message) = job.diagnostics.map (·.misfit.message)) ∧
      respaced (respaced line) = respaced line := by
  obtain ⟨closed', same⟩ := scan_respaced closed
  obtain ⟨pipelines, misfits⟩ := ofTokens_written same
  refine ⟨closed', same, ⟨_, _, ofLine_of_closed closed, ofLine_of_closed closed', pipelines, ?_⟩, ?_⟩
  · have messages := congrArg (List.map Misfit.message) misfits
    rwa [List.map_map, List.map_map] at messages
  · have texts := congrArg (List.map Prod.snd) same
    rw [List.map_map, List.map_map] at texts
    exact congrArg (Text.join " ") texts

/-- Arrows in a row, a sign between quotes, an escaped space, and a backslash at the end of the line. -/
theorem crowded_line_respaced :
    let line : Text := "a\\ b>>>'|'\t\\"
    (Scan.ofLine line).unclosed = none ∧ respaced line = "a\\ b >> > '|' \\" ∧
      (Scan.ofLine (respaced line)).unclosed = none ∧
      (Scan.ofLine (respaced line)).tokens.map written = (Scan.ofLine line).tokens.map written ∧
      (∃ job again, Job.ofLine line = .ok job ∧ Job.ofLine (respaced line) = .ok again ∧
        again.pipelines = job.pipelines ∧
        again.diagnostics.map (·.misfit.message) = job.diagnostics.map (·.misfit.message)) ∧
      respaced (respaced line) = respaced line := by
  intro line
  have closed : (Scan.ofLine line).unclosed = none := by decide +kernel
  exact ⟨closed, by decide +kernel, respaced_is_normal closed⟩

end CommandShell.Proofs.Respacing
