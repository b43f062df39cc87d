import CommandShell.Word
import CommandShell.Proofs.LineMarks

/-! The signs in a word: quotes that open or close a region, and backslashes that take the next character
with them. A word is read twice, by the scan that looks for its end in the line and by the reader of its
meaning, which sees the word alone. Both take the same characters for signs. -/

namespace CommandShell.Proofs.QuoteSigns
open Scan ScanSteps
open LineMarks (Mode eq_plain eq_region)

inductive Sign
  | opens
  | closes
  | escapes
  | itself
  deriving DecidableEq

abbrev Signs := List (Char × Sign)

def kept (signs : Signs) : Text := (signs.filter (·.2 = .itself)).map Prod.fst

def note (front : Signs) (found : Signs × α) : Signs × α := (front ++ found.1, found.2)

/-- The scan of a word that writes down what it does. -/
def scanSigns (opened : Option OpenQuote) (offset : Nat) : Text → Except OpenQuote (Signs × Text)
  | [] =>
    match opened with
    | none => .ok ([], [])
    | some found => .error found
  | c :: rest =>
    match opened with
    | none =>
      if isSpace c || (operator? c).isSome then .ok ([], c :: rest)
      else if isQuote c then (scanSigns (some ⟨c, offset⟩) (offset + 1) rest).map (note [(c, .opens)])
      else match c, rest with
        | '\\', d :: rest =>
          (scanSigns none (offset + 2) rest).map (note [('\\', .escapes), (d, .itself)])
        | c, rest => (scanSigns none (offset + 1) rest).map (note [(c, .itself)])
    | some region =>
      if c = region.quote then (scanSigns none (offset + 1) rest).map (note [(c, .closes)])
      else match c, rest with
        | '\\', d :: rest =>
          if region.quote = '"' then
            (scanSigns (some region) (offset + 2) rest).map (note [('\\', .escapes), (d, .itself)])
          else (scanSigns (some region) (offset + 1) (d :: rest)).map (note [('\\', .itself)])
        | c, rest => (scanSigns (some region) (offset + 1) rest).map (note [(c, .itself)])

def forget (found : Signs × Text) : Text × Text := (found.1.map Prod.fst, found.2)

theorem forget_note (front : Signs) (result : Except OpenQuote (Signs × Text)) :
    (result.map (note front)).map forget = (result.map forget).map (word.add (front.map Prod.fst)) := by
  cases result with
  | error opened => rfl
  | ok found => simp [Except.map, forget, note, word.add]

private theorem scan_forget (opened : Option OpenQuote) (offset : Nat) (t : Text) :
    (scanSigns opened offset t).map forget = word opened offset t := by
  fun_induction scanSigns opened offset t with
  | case1 => rfl
  | case2 => rfl
  | case3 offset c rest stops => exact (word_stops (by simpa [Stops] using stops) offset).symm
  | case4 offset c rest apart quote ih =>
    rw [forget_note, ih]
    exact (word_open quote offset rest).symm
  | case5 offset d rest apart no_quote ih =>
    rw [forget_note, ih]
    exact (word_escape offset d rest).symm
  | case6 offset c rest last apart no_quote ih =>
    rw [forget_note, ih]
    obtain ⟨no_space, no_sign⟩ : isSpace c = false ∧ operator? c = none := by simpa using apart
    exact (word_ordinary no_space no_sign (by simpa using no_quote) (nil_of_unpaired last) offset).symm
  | case7 offset rest region ih =>
    rw [forget_note, ih]
    exact (word_close region offset rest).symm
  | case8 offset region d rest double outside ih =>
    rw [forget_note, ih]
    exact (word_inside_escape double offset d rest).symm
  | case9 offset region d rest single outside ih =>
    rw [forget_note, ih]
    exact (word_inside_ordinary outside (fun double => absurd double single) offset).symm
  | case10 offset region c rest last inside ih =>
    rw [forget_note, ih]
    exact (word_inside_ordinary inside (fun _ => nil_of_unpaired last) offset).symm

/-- Where the reader of a word comes to at its end. It waits if the last character is a backslash that would
have taken another one with it. -/
structure Ending where
  quoting : Word.Quoting
  waiting : Bool := false
  deriving DecidableEq

def meaningSigns : Word.Quoting → Text → Signs × Ending
  | quoting, [] => ([], { quoting })
  | .single, c :: rest =>
    if c = '\'' then note [(c, .closes)] (meaningSigns .bare rest)
    else note [(c, .itself)] (meaningSigns .single rest)
  | quoting, ['\\'] => ([('\\', .itself)], { quoting, waiting := true })
  | quoting, '\\' :: c :: rest => note [('\\', .escapes), (c, .itself)] (meaningSigns quoting rest)
  | .double, c :: rest =>
    if c = '"' then note [(c, .closes)] (meaningSigns .bare rest)
    else note [(c, .itself)] (meaningSigns .double rest)
  | .bare, c :: rest =>
    if c = '\'' then note [(c, .opens)] (meaningSigns .single rest)
    else if c = '"' then note [(c, .opens)] (meaningSigns .double rest)
    else note [(c, .itself)] (meaningSigns .bare rest)

private theorem kept_meaningSigns (quoting : Word.Quoting) (t : Text) :
    kept (meaningSigns quoting t).1 = Word.meaningFrom quoting t := by
  fun_induction meaningSigns quoting t <;> simp_all [note, kept, Word.meaningFrom]

private theorem getLast?_of_waiting {quoting : Word.Quoting} {t : Text}
    (waits : (meaningSigns quoting t).2.waiting = true) :
    (meaningSigns quoting t).1.getLast? = some ('\\', .itself) := by
  fun_induction meaningSigns quoting t <;> simp_all [note, List.getLast?_cons]

private theorem ne_backslash {c : Char} {rest : Text} (some_left : c = '\\' → ¬ rest = [])
    (unpaired : ∀ d more, c = '\\' → ¬ rest = d :: more) : c ≠ '\\' :=
  fun backslash => some_left backslash (nil_of_unpaired unpaired backslash)

/-- A reader that does not wait goes on with what is behind as if that stood alone. -/
theorem meaningSigns_append {quoting : Word.Quoting} {first : Text}
    (ready : (meaningSigns quoting first).2.waiting = false) (second : Text) :
    let front := meaningSigns quoting first
    let back := meaningSigns front.2.quoting second
    meaningSigns quoting (first ++ second) = (front.1 ++ back.1, back.2) := by
  fun_induction meaningSigns quoting first with
  | case7 c rest some_left unpaired outside ih | case10 c rest some_left unpaired outside outside' ih =>
    have ordinary := ne_backslash some_left unpaired
    simp_all [note, meaningSigns]
  | _ => simp_all [note, meaningSigns]

private theorem meaning_append {first : Text} (ready : (meaningSigns .bare first).2 = ⟨.bare, false⟩)
    (second : Text) :
    Word.meaning (first ++ second) = Word.meaning first ++ Word.meaning second := by
  have whole := meaningSigns_append (show (meaningSigns .bare first).2.waiting = false by rw [ready]) second
  simp only [ready] at whole
  simp only [Word.meaning, ← kept_meaningSigns, whole, kept, List.filter_append, List.map_append]

/-- The quoting that the reader of the meaning is in where the scan of the line is in a mode. -/
def quotingOf : Mode → Word.Quoting
  | .plain => .bare
  | .single _ => .single
  | .double _ => .double

private theorem forget_inv {result : Except OpenQuote (Signs × Text)} {text rest : Text}
    (read : result.map forget = .ok (text, rest)) :
    ∃ signs, result = .ok (signs, rest) ∧ signs.map Prod.fst = text := by
  cases result with
  | error found => cases read
  | ok inner =>
    obtain ⟨rfl, rfl⟩ := Prod.mk.inj (Except.ok.inj read)
    exact ⟨inner.1, rfl, rfl⟩

theorem note_inv {front : Signs} {result : Except OpenQuote (Signs × Text)} {found : Signs × Text}
    (read : result.map (note front) = .ok found) :
    ∃ more, result = .ok (more, found.2) ∧ found.1 = front ++ more := by
  cases result with
  | error found => cases read
  | ok inner =>
    obtain rfl := Except.ok.inj read
    exact ⟨inner.1, rfl, rfl⟩

/-- The reader of the meaning sees the signs that the scan left behind in a mode. It ends outside of quotes,
and waits only where the line has ended. -/
def Agrees (mode : Mode) (rest : Text) (signs : Signs) : Prop :=
  ∃ waiting, meaningSigns (quotingOf mode) (signs.map Prod.fst) = (signs, ⟨.bare, waiting⟩) ∧
    (waiting = true → rest = [])

theorem Agrees.front {mode next : Mode} {rest : Text} {signs : Signs} (front : Signs)
    (agrees : Agrees next rest signs)
    (reads : meaningSigns (quotingOf mode) ((front ++ signs).map Prod.fst) =
      note front (meaningSigns (quotingOf next) (signs.map Prod.fst))) :
    Agrees mode rest (front ++ signs) := by
  obtain ⟨waiting, same, ends⟩ := agrees
  refine ⟨waiting, ?_, ends⟩
  rw [reads, same]
  rfl

/-- What the scan takes for signs is what the reader of the meaning takes for them. -/
theorem signs_agree {mode : Mode} {offset : Nat} {t rest : Text} {signs : Signs}
    (read : scanSigns mode.unclosed offset t = .ok (signs, rest)) : Agrees mode rest signs := by
  generalize same : mode.unclosed = opened at read
  fun_induction scanSigns opened offset t generalizing mode signs with
  | case1 =>
    obtain rfl := eq_plain same
    cases read
    exact ⟨false, rfl, nofun⟩
  | case2 => cases read
  | case3 offset c behind stops =>
    obtain rfl := eq_plain same
    cases read
    exact ⟨false, rfl, nofun⟩
  | case4 offset c behind apart quote ih =>
    obtain rfl := eq_plain same
    obtain ⟨more, reads, rfl⟩ := note_inv read
    obtain rfl | rfl : c = '\'' ∨ c = '"' := by simpa [isQuote] using quote
    · exact (@ih (.single offset) _ rfl reads).front [('\'', .opens)] rfl
    · exact (@ih (.double offset) _ rfl reads).front [('"', .opens)] rfl
  | case5 offset d behind apart no_quote ih =>
    obtain rfl := eq_plain same
    obtain ⟨more, reads, rfl⟩ := note_inv read
    exact (@ih .plain _ rfl reads).front [('\\', .escapes), (d, .itself)] rfl
  | case6 offset c behind last apart no_quote ih =>
    obtain rfl := eq_plain same
    obtain ⟨more, reads, rfl⟩ := note_inv read
    by_cases backslash : c = '\\'
    · -- Only the last character of a line is a backslash that takes no other with it.
      obtain rfl := nil_of_unpaired last backslash
      cases reads
      rw [backslash]
      exact ⟨true, rfl, fun _ => rfl⟩
    · refine (@ih .plain _ rfl reads).front [(c, .itself)] ?_
      simp [isQuote] at no_quote
      simp [quotingOf, meaningSigns, no_quote, backslash]
  | case7 offset behind region ih =>
    obtain ⟨more, reads, rfl⟩ := note_inv read
    have agrees := @ih .plain _ rfl reads
    obtain ⟨opening, rfl, rfl⟩ | ⟨opening, rfl, rfl⟩ := eq_region same
    · exact agrees.front [('\'', .closes)] rfl
    · exact agrees.front [('"', .closes)] rfl
  | case8 offset region d behind double outside ih =>
    obtain ⟨more, reads, rfl⟩ := note_inv read
    have agrees := ih same reads
    obtain ⟨opening, rfl, rfl⟩ | ⟨opening, rfl, rfl⟩ := eq_region same
    · cases double
    · exact agrees.front [('\\', .escapes), (d, .itself)] rfl
  | case9 offset region d behind single outside ih =>
    obtain ⟨more, reads, rfl⟩ := note_inv read
    have agrees := ih same reads
    obtain ⟨opening, rfl, rfl⟩ | ⟨opening, rfl, rfl⟩ := eq_region same
    · exact agrees.front [('\\', .itself)] rfl
    · exact absurd rfl single
  | case10 offset region c behind last inside ih =>
    obtain ⟨more, reads, rfl⟩ := note_inv read
    refine (ih same reads).front [(c, .itself)] ?_
    obtain ⟨opening, rfl, rfl⟩ | ⟨opening, rfl, rfl⟩ := eq_region same
    · simp [quotingOf, meaningSigns, inside]
    · have ordinary : c ≠ '\\' := by
        intro backslash
        obtain rfl := nil_of_unpaired last backslash
        cases reads
      simp [quotingOf, meaningSigns, inside, ordinary]

/-- The scan of a line and the reader of a meaning take the same characters of a word for signs, and the
meaning is the word without them. A backslash at the end of the line is no sign. -/
structure ReadAlike (line : Text) (token : Token) (signs : Signs) (waiting : Bool) : Prop where
  found : word none token.start (line.drop token.start) = .ok (token.text, line.drop token.stop)
  scanned : scanSigns none token.start (line.drop token.start) = .ok (signs, line.drop token.stop)
  read : meaningSigns .bare token.text = (signs, ⟨.bare, waiting⟩)
  chars : signs.map Prod.fst = token.text
  meaning : Word.meaning token.text = kept signs
  dangling : waiting = true → token.stop = line.length ∧ signs.getLast? = some ('\\', .itself)

/-- Every word of a line is read alike by both, so that its meaning can be put together from pieces that
end outside of quotes with no character still to be taken. -/
theorem words_read_alike {line : Text} {token : Token} (inside : token ∈ (Scan.ofLine line).tokens)
    (is_word : token.kind = .word) :
    (∃ signs waiting, ReadAlike line token signs waiting) ∧
      ∀ first second, token.text = first ++ second → (meaningSigns .bare first).2 = ⟨.bare, false⟩ →
        Word.meaning token.text = Word.meaning first ++ Word.meaning second := by
  refine ⟨?_, fun first second split ready => by rw [split, meaning_append ready]⟩
  obtain ⟨front, later, whole, place, read⟩ := words_stand 0 line token inside is_word
  rw [Nat.zero_add] at place
  have before : line.drop token.start = token.text ++ later := by
    rw [← whole, ← place, List.drop_left]
  have behind : line.drop token.stop = later := by
    rw [Token.stop, ← List.drop_drop, before, List.drop_left]
  have found := read
  rw [← scan_forget] at read
  obtain ⟨signs, scanned, chars⟩ := forget_inv read
  obtain ⟨waiting, agrees, ends⟩ := signs_agree (show scanSigns Mode.plain.unclosed _ _ = _ from scanned)
  have reads : meaningSigns .bare token.text = (signs, ⟨.bare, waiting⟩) := by rwa [chars] at agrees
  rw [← before, ← behind] at found scanned
  refine ⟨signs, waiting, found, scanned, reads, chars, ?_, fun waits => ⟨?_, ?_⟩⟩
  · rw [Word.meaning, ← kept_meaningSigns, reads]
  · rw [← whole, ends waits, Token.stop, ← place]
    simp
  · have last := getLast?_of_waiting (show (meaningSigns .bare token.text).2.waiting = true by rwa [reads])
    rwa [reads] at last

/-- Quotes inside of quotes, both kinds of regions, and a backslash at the end of the line. -/
theorem mixed_quotes_read_alike :
    let line : Text := "cat \"a'\\\"b\"\\ 'c\\'d\\"
    let first : Text := "\"a'\\\"b\"\\ "
    let second : Text := "'c\\'d\\"
    (⟨.word, first ++ second, 4⟩ : Token) ∈ (Scan.ofLine line).tokens ∧
      (∃ signs waiting, ReadAlike line ⟨.word, first ++ second, 4⟩ signs waiting) ∧
      (meaningSigns .bare first).2 = ⟨.bare, false⟩ ∧
      Word.meaning (first ++ second) = Word.meaning first ++ Word.meaning second ∧
      Word.meaning first = "a'\"b " ∧ Word.meaning second = "c\\d\\" := by
  intro line first second
  have found : (Scan.ofLine line).tokens[1]? = some ⟨.word, first ++ second, 4⟩ := by decide +kernel
  have inside := List.mem_of_getElem? found
  have ready : (meaningSigns .bare first).2 = ⟨.bare, false⟩ := by decide
  obtain ⟨alike, pieces⟩ := words_read_alike inside rfl
  exact ⟨inside, alike, ready, pieces first second rfl ready, by decide, by decide⟩

end CommandShell.Proofs.QuoteSigns
