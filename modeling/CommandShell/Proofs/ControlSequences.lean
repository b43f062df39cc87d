import CommandShell.Proofs.KeyStrokes

/-! Complete control sequences of a terminal: the characters that open one, parameters, intermediate
characters and a last one. A sequence with nothing but digits inside is read as one. Any other is taken
to be over at the first character inside that is no digit, and the rest of it is typed. -/

namespace CommandShell.Proofs.ControlSequences
open Key KeyStrokes

/-- What a terminal sends behind the characters that open a sequence. -/
structure Sequence where
  parameters : Text
  intermediates : Text
  final : Char
  parametersFit : ∀ c ∈ parameters, 0x30 ≤ c.toNat ∧ c.toNat ≤ 0x3f
  intermediatesFit : ∀ c ∈ intermediates, 0x20 ≤ c.toNat ∧ c.toNat ≤ 0x2f
  finalFits : 0x40 ≤ final.toNat ∧ final.toNat ≤ 0x7e

namespace Sequence

def body (sequence : Sequence) : Text := sequence.parameters ++ sequence.intermediates

def front (sequence : Sequence) : Text := escapeChar :: '[' :: sequence.body

def written (sequence : Sequence) : Text := sequence.front ++ [sequence.final]

private theorem body_fits (sequence : Sequence) : ∀ c ∈ sequence.body, 0x20 ≤ c.toNat ∧ c.toNat < 0x40 := by
  intro c inside
  rcases List.mem_append.mp inside with parameter | intermediate
  · have fits := sequence.parametersFit c parameter
    omega
  · have fits := sequence.intermediatesFit c intermediate
    omega

end Sequence

/-- The decoder reads a text as one sequence. It is inside it and gives no press until the last
character; that one gives at most one press, of a key that is no character, and ends the sequence. -/
structure ReadAsOne (decoder : Decoder) (front : Text) (last : Char) : Prop where
  silent : (decoder.feedAll front).2 = []
  inside : ∀ start, start <+: front → start ≠ [] → (decoder.feedAll start).1.stage ≠ .normal
  single : ((decoder.feedAll front).1.feed last).2.length ≤ 1
  noChar : ∀ c, .char c ∉ ((decoder.feedAll front).1.feed last).2
  ended : ((decoder.feedAll front).1.feed last).1.stage = .normal

theorem feedAll_allDigits (parameter : Option Char) {digits : Text}
    (numeric : ∀ c ∈ digits, c.isDigit = true) : ∃ latest,
    Decoder.feedAll ⟨.bracketed, parameter⟩ digits = (⟨.bracketed, latest⟩, []) := by
  have whole : (digits.pmap Subtype.mk numeric).map Subtype.val = digits := by
    rw [List.map_pmap, List.pmap_eq_map, List.map_id']
  rw [← whole]
  exact feedAll_digits _ parameter

private theorem ofFinal?_fits (parameter : Option Char) {c : Char} (low : c.toNat < 0x40) :
    ofFinal? parameter c = none := by
  unfold ofFinal?
  split <;> first | rfl | exact absurd low (by decide)

private theorem ofFinal?_noChar (parameter : Option Char) (c typed : Char) :
    ofFinal? parameter c ≠ some (.char typed) := by
  unfold ofFinal?
  split <;> try split
  all_goals nofun

private theorem feedAll_typed {typed : Text} (plain : ∀ c ∈ typed, c ≠ escapeChar) :
    ({} : Decoder).feedAll typed = ({}, typed.map .char) := by
  induction typed with
  | nil => rfl
  | cons c typed ih =>
    obtain ⟨first, rest⟩ := List.forall_mem_cons.mp plain
    have read : ({} : Decoder).feed c = ({}, [.char c]) := by simp only [Decoder.feed, if_neg first]
    simp only [Decoder.feedAll, read, ih rest, List.map_cons, List.singleton_append]

private theorem isDigit_final (sequence : Sequence) : sequence.final.isDigit = false := by
  have fits := sequence.finalFits
  have above : ¬ sequence.final.val ≤ '9'.val := by
    rw [UInt32.le_iff_toNat_le]
    exact Nat.not_le.mpr (Nat.lt_of_lt_of_le (by decide) fits.1)
  simp only [Char.isDigit, Bool.and_eq_false_iff, decide_eq_false_iff_not]
  exact .inr above

private theorem not_escape {c : Char} (fits : 0x20 ≤ c.toNat) : c ≠ escapeChar := by
  rintro rfl
  exact absurd fits (by decide)

variable {parameter : Option Char}

/-- A decoder at rest forgets what was there of a parameter when a sequence opens. -/
theorem feedAll_opens (rest : Text) :
    Decoder.feedAll ⟨.normal, parameter⟩ (escapeChar :: '[' :: rest) =
      Decoder.feedAll ⟨.bracketed, none⟩ rest := rfl

private theorem readAsOne_numeric (sequence : Sequence) (numeric : ∀ c ∈ sequence.body, c.isDigit = true) :
    ReadAsOne ⟨.normal, parameter⟩ sequence.front sequence.final := by
  obtain ⟨latest, read⟩ := feedAll_allDigits none numeric
  have front : Decoder.feedAll ⟨.normal, parameter⟩ sequence.front = (⟨.bracketed, latest⟩, []) := read
  have last := feed_final (isDigit_final sequence) latest
  refine ⟨by rw [front], ?_, ?_, ?_, by rw [front, last]⟩
  · intro start before filled
    -- A start is the escape character alone, or it goes on with digits behind the bracket.
    obtain ⟨c, start, rfl⟩ := List.exists_cons_of_ne_nil filled
    obtain ⟨rfl, opened⟩ := List.cons_prefix_cons.mp before
    cases start with
    | nil => nofun
    | cons c start =>
      obtain ⟨rfl, digits⟩ := List.cons_prefix_cons.mp opened
      obtain ⟨latest, read⟩ := feedAll_allDigits none fun c inside => numeric c (digits.subset inside)
      rw [feedAll_opens, read]
      nofun
  · rw [front, last]
    exact Option.length_toList_le
  · intro c pressed
    rw [front, last] at pressed
    exact ofFinal?_noChar latest _ c (Option.mem_toList.mp pressed)

private theorem feedAll_broken (sequence : Sequence) {digits rest : Text} {c : Char}
    (split : sequence.body = digits ++ c :: rest) (numeric : ∀ d ∈ digits, d.isDigit = true)
    (noDigit : c.isDigit = false) :
    Decoder.feedAll ⟨.normal, parameter⟩ sequence.written = ({}, (rest ++ [sequence.final]).map .char) := by
  have fits := sequence.body_fits
  rw [split, List.forall_mem_append, List.forall_mem_cons] at fits
  obtain ⟨-, here, later⟩ := fits
  have plain : ∀ c ∈ rest ++ [sequence.final], c ≠ escapeChar := by
    refine List.forall_mem_append.mpr ⟨fun c inside => not_escape (later c inside).1, ?_⟩
    rw [List.forall_mem_singleton]
    exact not_escape (Nat.le_trans (by decide) sequence.finalFits.1)
  obtain ⟨latest, read⟩ := feedAll_allDigits none numeric
  have behind : sequence.written = escapeChar :: '[' :: (digits ++ c :: (rest ++ [sequence.final])) := by
    simp [Sequence.written, Sequence.front, split]
  have ended : Decoder.feedAll ⟨.bracketed, latest⟩ (c :: (rest ++ [sequence.final])) =
      ({}, (rest ++ [sequence.final]).map .char) := by
    simp only [Decoder.feedAll, feed_final noDigit, ofFinal?_fits latest here.2, feedAll_typed plain]
    rfl
  rw [behind, feedAll_opens, feedAll_append, read, ended]
  rfl

/-- A sequence that has nothing but digits inside is read as one, whatever its last character. In any
other the first character that is no digit ends the sequence and gives no press, and all characters
behind it are typed, the last one included. -/
theorem sequence_read {decoder : Decoder} (atRest : decoder.stage = .normal) (sequence : Sequence) :
    ((∀ c ∈ sequence.body, c.isDigit = true) → ReadAsOne decoder sequence.front sequence.final) ∧
    ∀ digits c rest, sequence.body = digits ++ c :: rest → (∀ d ∈ digits, d.isDigit = true) →
      c.isDigit = false →
      decoder.feedAll sequence.written = ({}, (rest ++ [sequence.final]).map .char) := by
  obtain ⟨stage, parameter⟩ := decoder
  obtain rfl : stage = .normal := atRest
  refine ⟨readAsOne_numeric sequence, ?_⟩
  intro digits c rest split numeric noDigit
  exact feedAll_broken sequence split numeric noDigit

def functionKey : Sequence := ⟨['1', '5'], [], '~', by simp, by simp, by decide⟩

def controlRight : Sequence := ⟨['1', ';', '5'], [], 'C', by simp, by simp, by decide⟩

theorem function_key_read :
    ({} : Decoder).stage = .normal ∧ (∀ c ∈ functionKey.body, c.isDigit = true) ∧
      ReadAsOne {} functionKey.front functionKey.final ∧
      ({} : Decoder).feedAll controlRight.written = ({}, [.char '5', .char 'C']) := by
  have numeric : ∀ c ∈ functionKey.body, c.isDigit = true := by simp [functionKey, Sequence.body]
  refine ⟨rfl, numeric, (sequence_read rfl functionKey).1 numeric, ?_⟩
  exact (sequence_read rfl controlRight).2 ['1'] ';' ['5'] rfl (by simp) rfl

/-- A second parameter is typed, and the last character behind it. -/
theorem second_parameter_typed :
    ¬ ReadAsOne {} controlRight.front controlRight.final ∧
      (({} : Decoder).feedAll controlRight.written).2 = [.char '5', .char 'C'] :=
  ⟨fun read => absurd read.silent (by decide), rfl⟩

end CommandShell.Proofs.ControlSequences
