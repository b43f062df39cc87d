import CommandShell.Proofs.HeldBytes

/-! The bytes that complete nothing: the beginning of a character, and that of a surrogate. -/

namespace CommandShell.Proofs.UnfinishedCharacters
open HeldBytes Utf8 Utf8Text

/-- Bytes that begin a character and do not end it. -/
def Unfinished (tail : Bytes) : Prop := tail ≠ [] ∧ ∃ c more, more ≠ [] ∧ tail ++ more = encode [c]

/-- The first two of the three bytes that would stand for a surrogate. -/
def HalfSurrogate (tail : Bytes) : Prop :=
  ∃ byte : UInt8, 0xA0 ≤ byte.toNat ∧ byte.toNat ≤ 0xBF ∧ tail = [0xED, byte]

private theorem eq_singleton_of_flatten {texts : List Text} {c : Char} (filled : ∀ text ∈ texts, text ≠ [])
    (whole : texts.flatten = [c]) : texts = [[c]] := by
  match texts with
  | [] => cases whole
  | [] :: _ => exact absurd rfl (filled [] List.mem_cons_self)
  | (d :: text) :: more =>
    rw [List.flatten_cons, List.cons_append, List.cons.injEq, List.append_eq_nil_iff] at whole
    obtain ⟨rfl, rfl, nothing⟩ := whole
    cases more with
    | nil => rfl
    | cons other more =>
      have empty := (List.append_eq_nil_iff.mp (List.flatten_cons.symm.trans nothing)).1
      exact absurd empty (filled other (by simp))

theorem completed_encode (c : Char) :
    completed .nothing (encode [c]) = [[c]] ∧ heldAfter .nothing (encode [c]) = .nothing := by
  have whole := decode_eq (encode [c])
  rw [decode_encode] at whole
  have resting : heldAfter .nothing (encode [c]) = .nothing := by
    by_cases other : c = replacement
    · subst other
      decide
    · -- What is held would be replaced, but the character is another one.
      by_contra holds
      have last : replacement ∈ [c] := by
        rw [whole]
        exact List.mem_append_right _ (mem_decodeHeld holds)
      exact other (List.mem_singleton.mp last).symm
  rw [resting] at whole
  have text : (completed .nothing (encode [c])).flatten = [c] := (List.append_nil _).symm.trans whole.symm
  exact ⟨eq_singleton_of_flatten (completed_filled _ _) text, resting⟩

theorem Unfinished.silent {tail : Bytes} (unfinished : Unfinished tail) : completed .nothing tail = [] := by
  obtain ⟨-, c, more, filled, whole⟩ := unfinished
  obtain ⟨read, resting⟩ := completed_encode c
  rw [← whole] at read resting
  rw [heldAfter_append] at resting
  rw [completed_append] at read
  have later := List.length_pos_iff.mpr (completed_of_resting filled resting)
  have size := congrArg List.length read
  rw [List.length_append, List.length_singleton] at size
  exact List.length_eq_zero_iff.mp (by omega)

theorem Unfinished.no_surrogate {tail : Bytes} (unfinished : Unfinished tail) :
    heldAfter .nothing tail ≠ .surrogate := by
  intro held
  have silent := unfinished.silent
  obtain ⟨-, c, more, filled, whole⟩ := unfinished
  obtain ⟨byte, rest, rfl⟩ := List.exists_cons_of_ne_nil filled
  have read := (completed_encode c).1
  rw [← whole, completed_append, silent, held] at read
  have size := congrArg List.length (List.cons.inj read).1
  simp [Held.take] at size

theorem HalfSurrogate.silent {tail : Bytes} (half : HalfSurrogate tail) : completed .nothing tail = [] := by
  obtain ⟨byte, above, below, rfl⟩ := half
  have starts : Held.startsSurrogate { bits := 0xD, owed := 2, high := 0x9F } byte = true :=
    startsSurrogate_iff.mpr ⟨rfl, rfl, above, below⟩
  have lead : Held.nothing.take 0xED = ([], .character { bits := 0xD, owed := 2, high := 0x9F }) := rfl
  have second : (Held.character { bits := 0xD, owed := 2, high := 0x9F }).take byte = ([], .surrogate) :=
    if_pos starts
  simp only [completed, lead, second]
  rfl

theorem exists_char {v : Nat} (valid : v < 0xD800 ∨ 0xDFFF < v ∧ v < 0x110000) : ∃ c : Char, c.val.toNat = v :=
  ⟨Char.ofNatAux v valid, rfl⟩

theorem eq_of_toNat {n : Nat} (byte : UInt8) (same : n = byte.toNat) : UInt8.ofNat n = byte := by
  rw [same, UInt8.ofNat_toNat]

theorem eq_least {n : Nat} (same : n = 0x80) : UInt8.ofNat n = 0x80 := eq_of_toNat 0x80 same

section Completions

variable {first second third : UInt8}

private theorem encode_double (low : 0xC2 ≤ first.toNat) (high : first.toNat < 0xE0) :
    ∃ c, encode [c] = [first, 0x80] := by
  obtain ⟨c, value⟩ := exists_char (v := (first.toNat - 0xC0) * 64) (by omega)
  refine ⟨c, ?_⟩
  rw [encode, List.flatMap_singleton, String.utf8EncodeChar, value, if_neg (by omega), if_pos (by omega),
    eq_of_toNat first (by omega), eq_least (by omega)]

private theorem encode_triple (low : 0xE0 ≤ first.toNat) (high : first.toNat < 0xF0)
    (least : (if first.toNat = 0xE0 then 0xA0 else 0x80) ≤ second.toNat)
    (most : second.toNat ≤ if first.toNat = 0xED then 0x9F else 0xBF) :
    ∃ c, encode [c] = [first, second, 0x80] := by
  obtain ⟨c, value⟩ := exists_char (v := ((first.toNat - 0xE0) * 64 + (second.toNat - 0x80)) * 64)
    (by split at least <;> split at most <;> omega)
  have long : 0x800 ≤ c.val.toNat := by split at least <;> omega
  refine ⟨c, ?_⟩
  have continues : 0x80 ≤ second.toNat ∧ second.toNat ≤ 0xBF := by split at least <;> split at most <;> omega
  rw [encode, List.flatMap_singleton, String.utf8EncodeChar, if_neg (by omega), if_neg (by omega), value,
    if_pos (by omega), eq_of_toNat first (by omega), eq_of_toNat second (by omega), eq_least (by omega)]

theorem encode_quadruple (low : 0xF0 ≤ first.toNat) (high : first.toNat ≤ 0xF4)
    (least : (if first.toNat = 0xF0 then 0x90 else 0x80) ≤ second.toNat)
    (most : second.toNat ≤ if first.toNat = 0xF4 then 0x8F else 0xBF)
    (continues : 0x80 ≤ third.toNat ∧ third.toNat ≤ 0xBF) :
    ∃ c, encode [c] = [first, second, third, 0x80] := by
  obtain ⟨c, value⟩ := exists_char
    (v := (((first.toNat - 0xF0) * 64 + (second.toNat - 0x80)) * 64 + (third.toNat - 0x80)) * 64)
    (by split at least <;> split at most <;> omega)
  have long : 0x10000 ≤ c.val.toNat := by split at least <;> omega
  have continues' : 0x80 ≤ second.toNat ∧ second.toNat ≤ 0xBF := by split at least <;> split at most <;> omega
  refine ⟨c, ?_⟩
  rw [encode, List.flatMap_singleton, String.utf8EncodeChar, if_neg (by omega), if_neg (by omega),
    if_neg (by omega), value, eq_of_toNat first (by omega), eq_of_toNat second (by omega),
    eq_of_toNat third (by omega), eq_least (by omega)]

end Completions

theorem Unfinished.of_encode {tail more : Bytes} {c : Char} (filled : tail ≠ []) (unended : more ≠ [])
    (whole : encode [c] = tail ++ more) : Unfinished tail := ⟨filled, c, more, unended, whole.symm⟩

def triple (first : UInt8) : Started where
  bits := first.toNat - 0xE0
  owed := 2
  low := if first.toNat = 0xE0 then 0xA0 else 0x80
  high := if first.toNat = 0xED then 0x9F else 0xBF

def quadruple (first : UInt8) : Started where
  bits := first.toNat - 0xF0
  owed := 3
  low := if first.toNat = 0xF0 then 0x90 else 0x80
  high := if first.toNat = 0xF4 then 0x8F else 0xBF

private theorem exists_inside {started : Started} (ordered : started.low ≤ started.high)
    (bound : started.high ≤ 0xBF) :
    ∃ byte : UInt8, started.low ≤ byte.toNat ∧ byte.toNat ≤ started.high := by
  have same : (UInt8.ofNat started.low).toNat = started.low := toNat_ofNat (by omega)
  exact ⟨UInt8.ofNat started.low, Nat.le_of_eq same.symm, by rwa [same]⟩

private theorem exists_inside_triple (first : UInt8) :
    ∃ second : UInt8, (triple first).low ≤ second.toNat ∧ second.toNat ≤ (triple first).high := by
  refine exists_inside ?_ ?_
  · unfold triple
    dsimp only
    split <;> split <;> omega
  · unfold triple
    dsimp only
    split <;> omega

private theorem exists_inside_quadruple (first : UInt8) :
    ∃ second : UInt8, (quadruple first).low ≤ second.toNat ∧ second.toNat ≤ (quadruple first).high := by
  refine exists_inside ?_ ?_
  · unfold quadruple
    dsimp only
    split <;> split <;> omega
  · unfold quadruple
    dsimp only
    split <;> omega

section Starts

variable {first second : UInt8} {rest : Bytes}

private theorem unfinished_double (low : 0xC2 ≤ first.toNat) (high : first.toNat < 0xE0) :
    Unfinished [first] := by
  obtain ⟨c, whole⟩ := encode_double low high
  exact .of_encode (by simp) (by simp) (whole.trans (List.append_cons [] first [0x80]))

private theorem unfinished_triple (low : 0xE0 ≤ first.toNat) (high : first.toNat < 0xF0)
    (silent : completed (.character (triple first)) rest = []) :
    Unfinished (first :: rest) ∨ HalfSurrogate (first :: rest) := by
  cases rest with
  | nil =>
    obtain ⟨second, least, most⟩ := exists_inside_triple first
    obtain ⟨c, whole⟩ := encode_triple low high least most
    exact .inl (.of_encode (by simp) (by simp) (whole.trans (List.append_cons [] first _)))
  | cons second rest =>
    obtain ⟨continues, later⟩ := silent_cons.mp silent
    obtain ⟨starts, taken⟩ | ⟨inside, -, taken⟩ := take_more continues
    · obtain ⟨-, most, above, below⟩ := startsSurrogate_iff.mp starts
      have lead : first.toNat = 0xED := by
        by_contra other
        have all : (triple first).high = 0xBF := if_neg other
        rw [all] at most
        cases most
      rw [taken] at later
      obtain rfl := silent_surrogate later
      obtain rfl : first = 0xED := UInt8.toNat_inj.mp lead
      exact .inr ⟨second, above, below, rfl⟩
    · rw [taken] at later
      obtain rfl := silent_last rfl later
      obtain ⟨c, whole⟩ := encode_triple low high inside.1 inside.2
      exact .inl (.of_encode (by simp) (by simp) (whole.trans (List.append_cons [first] second _)))

private theorem unfinished_quadruple (low : 0xF0 ≤ first.toNat) (high : first.toNat ≤ 0xF4)
    (silent : completed (.character (quadruple first)) rest = []) : Unfinished (first :: rest) := by
  have least : 0x80 ≤ (0x80 : UInt8).toNat ∧ (0x80 : UInt8).toNat ≤ 0xBF := by decide
  cases rest with
  | nil =>
    obtain ⟨second, above, below⟩ := exists_inside_quadruple first
    obtain ⟨c, whole⟩ := encode_quadruple low high above below least
    exact .of_encode (by simp) (by simp) (whole.trans (List.append_cons [] first _))
  | cons second rest =>
    obtain ⟨continues, later⟩ := silent_cons.mp silent
    obtain ⟨starts, -⟩ | ⟨inside, -, taken⟩ := take_more continues
    · cases (startsSurrogate_iff.mp starts).1
    · rw [taken] at later
      cases rest with
      | nil =>
        obtain ⟨c, whole⟩ := encode_quadruple low high inside.1 inside.2 least
        exact .of_encode (by simp) (by simp) (whole.trans (List.append_cons [first] second _))
      | cons third rest =>
        obtain ⟨continues, last⟩ := silent_cons.mp later
        obtain ⟨starts, -⟩ | ⟨inside', -, taken⟩ := take_more continues
        · cases (startsSurrogate_iff.mp starts).2.1
        · rw [taken] at last
          obtain rfl := silent_last rfl last
          obtain ⟨c, whole⟩ := encode_quadruple low high inside.1 inside.2 inside'
          exact .of_encode (by simp) (by simp) (whole.trans (List.append_cons [first, second] third _))

end Starts

/-- Bytes that complete nothing begin a character, or a surrogate. -/
theorem unfinished_of_silent {tail : Bytes} (filled : tail ≠ []) (silent : completed .nothing tail = []) :
    Unfinished tail ∨ HalfSurrogate tail := by
  obtain ⟨first, rest, rfl⟩ := List.exists_cons_of_ne_nil filled
  obtain ⟨begun, later⟩ := silent_cons.mp silent
  rw [Held.take] at begun later
  obtain ⟨low, high⟩ := lead_of_silent begun
  by_cases double : first.toNat < 0xE0
  · rw [first_double low double] at later
    obtain rfl := silent_last rfl later
    exact .inl (unfinished_double low double)
  · by_cases three : first.toNat < 0xF0
    · rw [first_triple (by omega) three] at later
      exact unfinished_triple (by omega) three later
    · rw [first_quadruple (by omega) high] at later
      exact .inl (unfinished_quadruple (by omega) high later)

theorem completed_text (t : Text) : completed .nothing (encode t) = t.map ([·]) := by
  induction t with
  | nil => rfl
  | cons c rest ih =>
    obtain ⟨read, resting⟩ := completed_encode c
    have bytes : encode (c :: rest) = encode [c] ++ encode rest := by
      rw [encode, encode, encode, List.flatMap_singleton, List.flatMap_cons]
    rw [bytes, completed_append, read, resting, ih]
    rfl

end CommandShell.Proofs.UnfinishedCharacters
