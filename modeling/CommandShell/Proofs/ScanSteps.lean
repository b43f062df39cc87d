import CommandShell.Token

/-! The steps of a scan, one equation for each way a line can go on, and the order of the tokens
that a scan finds. -/

namespace CommandShell.Proofs.ScanSteps
open Scan

theorem word_bare (offset : Nat) (c : Char) (rest : Text) :
    word none offset (c :: rest) =
      if isSpace c || (operator? c).isSome then .ok ([], c :: rest)
      else if isQuote c then (word (some ⟨c, offset⟩) (offset + 1) rest).map (word.add [c])
      else match c, rest with
        | '\\', d :: rest => (word none (offset + 2) rest).map (word.add ['\\', d])
        | c, rest => (word none (offset + 1) rest).map (word.add [c]) := by
  rw [word.eq_def]
  rfl

theorem word_inside (region : OpenQuote) (offset : Nat) (c : Char) (rest : Text) :
    word (some region) offset (c :: rest) =
      if c = region.quote then (word none (offset + 1) rest).map (word.add [c])
      else match c, rest with
        | '\\', d :: rest =>
          if region.quote = '"' then
            (word (some region) (offset + 2) rest).map (word.add ['\\', d])
          else (word (some region) (offset + 1) (d :: rest)).map (word.add ['\\'])
        | c, rest => (word (some region) (offset + 1) rest).map (word.add [c]) := by
  rw [word.eq_def]
  rfl

private theorem isQuote_apart {c : Char} (quote : isQuote c = true) :
    isSpace c = false ∧ operator? c = none := by
  simp only [isQuote, Bool.or_eq_true, beq_iff_eq] at quote
  rcases quote with rfl | rfl <;> exact ⟨rfl, rfl⟩

theorem word_open {c : Char} (quote : isQuote c = true) (offset : Nat) (rest : Text) :
    word none offset (c :: rest) =
      (word (some ⟨c, offset⟩) (offset + 1) rest).map (word.add [c]) := by
  obtain ⟨no_space, no_sign⟩ := isQuote_apart quote
  simp [word_bare, no_space, no_sign, quote]

theorem word_close (region : OpenQuote) (offset : Nat) (rest : Text) :
    word (some region) offset (region.quote :: rest) =
      (word none (offset + 1) rest).map (word.add [region.quote]) := by
  rw [word_inside, if_pos rfl]

theorem word_escape (offset : Nat) (c : Char) (rest : Text) :
    word none offset ('\\' :: c :: rest) =
      (word none (offset + 2) rest).map (word.add ['\\', c]) := by
  rw [word_bare]
  rfl

theorem word_ordinary {c : Char} {rest : Text} (no_space : isSpace c = false)
    (no_sign : operator? c = none) (no_quote : isQuote c = false) (last : c = '\\' → rest = [])
    (offset : Nat) :
    word none offset (c :: rest) = (word none (offset + 1) rest).map (word.add [c]) := by
  simp only [word_bare, no_space, no_sign, no_quote, Option.isSome_none, Bool.or_self,
    Bool.false_eq_true, if_false]
  split
  · cases last rfl
  · rfl

theorem nil_of_unpaired {c : Char} {rest : Text} (unpaired : ∀ d more, c = '\\' → rest = d :: more → False)
    (backslash : c = '\\') : rest = [] := by
  cases rest with
  | nil => rfl
  | cons d more => exact (unpaired d more backslash rfl).elim

theorem word_inside_escape {region : OpenQuote} (double : region.quote = '"') (offset : Nat) (c : Char)
    (rest : Text) : word (some region) offset ('\\' :: c :: rest) =
      (word (some region) (offset + 2) rest).map (word.add ['\\', c]) := by
  rw [word_inside]
  simp [double]

theorem word_inside_ordinary {region : OpenQuote} {c : Char} {rest : Text} (inside : c ≠ region.quote)
    (last : region.quote = '"' → c = '\\' → rest = []) (offset : Nat) :
    word (some region) offset (c :: rest) = (word (some region) (offset + 1) rest).map (word.add [c]) := by
  rw [word_inside, if_neg inside]
  split
  next d rest =>
    by_cases double : region.quote = '"'
    · cases last double rfl
    · rw [if_neg double]
  next => rfl

theorem word_single {c : Char} (inside : c ≠ '\'') (offset position : Nat) (rest : Text) :
    word (some ⟨'\'', position⟩) offset (c :: rest) =
      (word (some ⟨'\'', position⟩) (offset + 1) rest).map (word.add [c]) :=
  word_inside_ordinary inside (fun double => by cases double) offset

theorem word_double {c : Char} {rest : Text} (inside : c ≠ '"') (last : c = '\\' → rest = [])
    (offset position : Nat) :
    word (some ⟨'"', position⟩) offset (c :: rest) =
      (word (some ⟨'"', position⟩) (offset + 1) rest).map (word.add [c]) :=
  word_inside_ordinary inside (fun _ => last) offset

theorem word_double_escape (offset position : Nat) (c : Char) (rest : Text) :
    word (some ⟨'"', position⟩) offset ('\\' :: c :: rest) =
      (word (some ⟨'"', position⟩) (offset + 2) rest).map (word.add ['\\', c]) :=
  word_inside_escape rfl offset c rest

/-- A text that a word does not go on with. -/
def Stops (rest : Text) : Prop := ∀ c ∈ rest.head?, isSpace c = true ∨ (operator? c).isSome

theorem word_stops {rest : Text} (stops : Stops rest) (offset : Nat) :
    word none offset rest = .ok ([], rest) := by
  cases rest with
  | nil => rfl
  | cons c rest =>
    rw [word_bare, if_pos (by simpa using stops c rfl)]

theorem ofText_nil (offset : Nat) : ofText offset [] = { tokens := [] } := by rw [ofText.eq_def]

theorem ofText_pair (offset : Nat) (rest : Text) :
    ofText offset ('>' :: '>' :: rest) =
      cons ⟨.appendTo, ['>', '>'], offset⟩ (ofText (offset + 2) rest) := by
  rw [ofText.eq_def]
  rfl

/-- A character that does not begin the sign for appending is looked at alone. -/
theorem ofText_single {c : Char} {rest : Text} (single : c = '>' → rest.head? ≠ some '>')
    (offset : Nat) :
    ofText offset (c :: rest) =
      if isSpace c then ofText (offset + 1) rest
      else match operator? c with
        | some kind => cons ⟨kind, [c], offset⟩ (ofText (offset + 1) rest)
        | none =>
          match word none offset (c :: rest) with
          | .error unclosed => { tokens := [], unclosed := some unclosed }
          | .ok (text, rest) => cons ⟨.word, text, offset⟩ (ofText (offset + text.length) rest) := by
  rw [ofText.eq_def]
  split
  · rename_i same
    cases same
  · rename_i same
    cases same
    exact absurd rfl (single rfl)
  · rename_i same
    cases same
    cases space : isSpace c
    · simp only [Bool.false_eq_true, dite_false, if_false]
      split
      · rename_i kind sign
        simp [sign]
      · rename_i apart
        simp only [apart]
        split <;> rename_i read <;> simp [read]
    · simp

theorem ofText_space {c : Char} (space : isSpace c = true) (offset : Nat) (rest : Text) :
    ofText offset (c :: rest) = ofText (offset + 1) rest := by
  have single : c ≠ '>' := by
    rintro rfl
    simp [isSpace] at space
  rw [ofText_single (fun arrow => absurd arrow single), if_pos space]

theorem isSpace_of_operator? {c : Char} {kind : TokenKind} (sign : operator? c = some kind) :
    isSpace c = false := by
  unfold operator? at sign
  split at sign <;> first | rfl | cases sign

theorem ofText_sign {c : Char} {kind : TokenKind} (sign : operator? c = some kind) {rest : Text}
    (single : c = '>' → rest.head? ≠ some '>') (offset : Nat) :
    ofText offset (c :: rest) = cons ⟨kind, [c], offset⟩ (ofText (offset + 1) rest) := by
  have apart := isSpace_of_operator? sign
  rw [ofText_single single, apart, sign]
  rfl

theorem ofText_word {c : Char} {rest text later : Text} {offset : Nat} (no_space : isSpace c = false)
    (no_sign : operator? c = none) (read : word none offset (c :: rest) = .ok (text, later)) :
    ofText offset (c :: rest) = cons ⟨.word, text, offset⟩ (ofText (offset + text.length) later) := by
  have single : c ≠ '>' := by
    rintro rfl
    cases no_sign
  rw [ofText_single (fun arrow => absurd arrow single), no_space, no_sign, read]
  rfl

/-- Tokens from a given offset on, none empty and each behind the one before. -/
structure Ordered (offset : Nat) (tokens : List Token) : Prop where
  from_offset : ∀ token ∈ tokens, offset ≤ token.start
  nonempty : ∀ token ∈ tokens, token.start < token.stop
  apart : tokens.Pairwise fun first second => first.stop ≤ second.start

theorem Ordered.nil (offset : Nat) : Ordered offset [] := ⟨by simp, by simp, .nil⟩

theorem Ordered.weaken {first second : Nat} {tokens : List Token} (ordered : Ordered second tokens)
    (below : first ≤ second) : Ordered first tokens :=
  ⟨fun token member => Nat.le_trans below (ordered.from_offset token member), ordered.nonempty,
    ordered.apart⟩

theorem Ordered.cons {offset : Nat} {token : Token} {tokens : List Token} (front : offset ≤ token.start)
    (nonempty : token.start < token.stop) (ordered : Ordered token.stop tokens) :
    Ordered offset (token :: tokens) := by
  refine ⟨?_, ?_, List.pairwise_cons.mpr ⟨ordered.from_offset, ordered.apart⟩⟩
  · intro other member
    rcases List.mem_cons.mp member with rfl | later
    · exact front
    · have := ordered.from_offset other later
      omega
  · intro other member
    rcases List.mem_cons.mp member with rfl | later
    · exact nonempty
    · exact ordered.nonempty other later

theorem ordered_ofText (offset : Nat) (t : Text) : Ordered offset (Scan.ofText offset t).tokens := by
  fun_induction Scan.ofText offset t with
  | case1 offset => exact .nil offset
  | case2 offset rest ih => exact .cons (Nat.le_refl _) (by simp [Token.stop]) ih
  | case3 offset c rest not_pair space ih => exact ih.weaken (Nat.le_succ offset)
  | case4 offset c rest not_pair space kind sign ih =>
    exact .cons (Nat.le_refl _) (by simp [Token.stop]) ih
  | case5 => exact .nil _
  | case6 offset c rest not_pair space apart text later read ih =>
    have shorter := Scan.length_lt_of_word (by simp [space, apart]) read
    have whole := congrArg List.length (Scan.append_of_word read)
    simp only [List.length_append] at whole
    dsimp only at shorter
    exact .cons (Nat.le_refl _) (by simp only [Token.stop]; omega) ih

theorem Ordered.starts {offset : Nat} {tokens : List Token} (ordered : Ordered offset tokens) :
    tokens.Pairwise fun first second => first.start < second.start := by
  apply ordered.apart.imp_of_mem
  intro first second member _ apart
  exact Nat.lt_of_lt_of_le (ordered.nonempty first member) apart

/-- A word stands in a text at its place, counted from an offset, and it was read there up to its end. -/
def StandsIn (offset : Nat) (text : Text) (token : Token) : Prop :=
  ∃ front later, front ++ (token.text ++ later) = text ∧ offset + front.length = token.start ∧
    word none token.start (token.text ++ later) = .ok (token.text, later)

theorem StandsIn.behind {offset : Nat} {text : Text} {token : Token} (start : Text)
    (stands : StandsIn (offset + start.length) text token) : StandsIn offset (start ++ text) token := by
  obtain ⟨front, later, whole, place, read⟩ := stands
  refine ⟨start ++ front, later, by rw [List.append_assoc, whole], ?_, read⟩
  rw [List.length_append, ← Nat.add_assoc, place]

theorem StandsIn.of_word {text later found : Text} {offset : Nat}
    (read : word none offset text = .ok (found, later)) : StandsIn offset text ⟨.word, found, offset⟩ := by
  have whole : found ++ later = text := append_of_word read
  exact ⟨[], later, whole, rfl, by rw [whole, read]⟩

private theorem ne_word_of_sign {c : Char} {kind : TokenKind} (sign : operator? c = some kind) :
    kind ≠ .word := by
  unfold operator? at sign
  split at sign <;> cases sign <;> nofun

theorem words_stand (offset : Nat) (text : Text) :
    ∀ token ∈ (ofText offset text).tokens, token.kind = .word → StandsIn offset text token := by
  fun_induction ofText offset text with
  | case1 => exact fun _ inside => absurd inside List.not_mem_nil
  | case2 offset rest ih =>
    have other : TokenKind.appendTo ≠ .word := by decide
    refine List.forall_mem_cons.mpr ⟨fun is_word => absurd is_word other, ?_⟩
    exact fun token inside is_word => (ih token inside is_word).behind ['>', '>']
  | case3 offset c rest not_pair space ih =>
    exact fun token inside is_word => (ih token inside is_word).behind [c]
  | case4 offset c rest not_pair space kind sign ih =>
    refine List.forall_mem_cons.mpr ⟨fun is_word => absurd is_word (ne_word_of_sign sign), ?_⟩
    exact fun token inside is_word => (ih token inside is_word).behind [c]
  | case5 => exact fun _ inside => absurd inside List.not_mem_nil
  | case6 offset c rest not_pair space apart text later read ih =>
    refine List.forall_mem_cons.mpr ⟨fun _ => .of_word read, fun token inside is_word => ?_⟩
    have behind := (ih token inside is_word).behind text
    rwa [append_of_word read] at behind

end CommandShell.Proofs.ScanSteps
