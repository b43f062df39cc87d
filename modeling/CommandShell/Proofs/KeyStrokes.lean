import CommandShell.Key

/-! What a terminal sends for the keys. The decoder reads it back: it gives the presses that were sent,
however many digits stand in a sequence, and is at rest again behind each of them. -/

namespace CommandShell.Proofs.KeyStrokes
open Key

abbrev Digit := { c : Char // c.isDigit = true }

/-- Keys that a bracketed sequence names by its last character alone. -/
inductive Named
  | up
  | down
  | right
  | left
  | shiftTab

namespace Named

def final : Named → Char
  | up => 'A'
  | down => 'B'
  | right => 'C'
  | left => 'D'
  | shiftTab => 'Z'

def key : Named → Key
  | up => .up
  | down => .down
  | right => .right
  | left => .left
  | shiftTab => .shiftTab

private theorem ofFinal?_final (named : Named) (parameter : Option Char) :
    ofFinal? parameter named.final = some named.key := by
  cases named <;> rfl

private theorem final_noDigit (named : Named) : named.final.isDigit = false := by
  cases named <;> rfl

end Named

/-- Something pressed at a terminal. The escape key alone is told apart from a sequence by the character
behind it. -/
inductive Stroke
  | char (c : Char) (plain : c ≠ escapeChar)
  | named (named : Named) (digits : List Digit)
  | delete (digits : List Digit)
  | altEnter (c : Char) (enters : c = '\r' ∨ c = '\n')
  | cancel (c : Char) (apart : c ∉ [escapeChar, '[', '\r', '\n'])

namespace Stroke

def written : Stroke → Text
  | char c _ => [c]
  | named key digits => escapeChar :: '[' :: (digits.map Subtype.val ++ [key.final])
  | delete digits => escapeChar :: '[' :: (digits.map Subtype.val ++ ['3', '~'])
  | altEnter c _ => [escapeChar, c]
  | cancel c _ => [escapeChar, c]

def keys : Stroke → List Key
  | char c _ => [.char c]
  | named key _ => [key.key]
  | delete _ => [.delete]
  | altEnter _ _ => [.altEnter]
  | cancel c _ => [.cancel, .char c]

end Stroke

theorem feedAll_append (decoder : Decoder) (first second : Text) :
    decoder.feedAll (first ++ second) =
      (((decoder.feedAll first).1.feedAll second).1,
        (decoder.feedAll first).2 ++ ((decoder.feedAll first).1.feedAll second).2) := by
  induction first generalizing decoder with
  | nil => rfl
  | cons c first ih =>
    simp only [List.cons_append, Decoder.feedAll, ih, List.append_assoc]

private theorem feedAll_opened (rest : Text) :
    ({} : Decoder).feedAll (escapeChar :: '[' :: rest) = Decoder.feedAll ⟨.bracketed, none⟩ rest := rfl

private theorem feed_digit {c : Char} (digit : c.isDigit = true) (parameter : Option Char) :
    Decoder.feed ⟨.bracketed, parameter⟩ c = (⟨.bracketed, some c⟩, []) := by
  simp only [Decoder.feed, if_pos digit]

theorem feed_final {c : Char} (noDigit : c.isDigit = false) (parameter : Option Char) :
    Decoder.feed ⟨.bracketed, parameter⟩ c = ({}, (ofFinal? parameter c).toList) := by
  simp only [Decoder.feed, noDigit, Bool.false_eq_true, if_false]

theorem feedAll_digits (digits : List Digit) (parameter : Option Char) : ∃ latest,
    Decoder.feedAll ⟨.bracketed, parameter⟩ (digits.map Subtype.val) = (⟨.bracketed, latest⟩, []) := by
  induction digits generalizing parameter with
  | nil => exact ⟨parameter, rfl⟩
  | cons digit digits ih =>
    obtain ⟨latest, read⟩ := ih (some digit.val)
    refine ⟨latest, ?_⟩
    simp only [List.map_cons, Decoder.feedAll, feed_digit digit.property, read, List.append_nil]

/-- What ends a sequence is read with some parameter, whatever digits stand before it. -/
theorem feedAll_sequence (digits : List Digit) (rest : Text) : ∃ latest,
    ({} : Decoder).feedAll (escapeChar :: '[' :: (digits.map Subtype.val ++ rest)) =
      Decoder.feedAll ⟨.bracketed, latest⟩ rest := by
  obtain ⟨latest, read⟩ := feedAll_digits digits none
  refine ⟨latest, ?_⟩
  rw [feedAll_opened, feedAll_append, read]
  rfl

private theorem feedAll_stroke (stroke : Stroke) :
    ({} : Decoder).feedAll stroke.written = ({}, stroke.keys) := by
  cases stroke with
  | char c plain =>
    simp only [Stroke.written, Decoder.feedAll, Decoder.feed, if_neg plain]
    rfl
  | named key digits =>
    obtain ⟨latest, read⟩ := feedAll_sequence digits [key.final]
    rw [Stroke.written, read, Decoder.feedAll, feed_final key.final_noDigit, key.ofFinal?_final]
    rfl
  | delete digits =>
    obtain ⟨latest, read⟩ := feedAll_sequence digits ['3', '~']
    rw [Stroke.written, read]
    rfl
  | altEnter c enters => obtain rfl | rfl := enters <;> rfl
  | cancel c apart =>
    simp only [List.mem_cons, List.not_mem_nil, or_false, not_or] at apart
    obtain ⟨noEscape, noBracket, noReturn, noFeed⟩ := apart
    have noEnter : ¬ (c = '\r' ∨ c = '\n') := not_or.mpr ⟨noReturn, noFeed⟩
    simp only [Stroke.written, Decoder.feedAll, Decoder.feed, if_true, if_neg noEscape, if_neg noBracket,
      if_neg noEnter]
    rfl

private theorem feedAll_strokes (strokes : List Stroke) :
    ({} : Decoder).feedAll (strokes.flatMap Stroke.written) = ({}, strokes.flatMap Stroke.keys) := by
  induction strokes with
  | nil => rfl
  | cons stroke strokes ih =>
    rw [List.flatMap_cons, feedAll_append, feedAll_stroke, ih, List.flatMap_cons]

/-- A parameter is there only inside a sequence, and it is one digit. -/
def Tidy (decoder : Decoder) : Prop :=
  decoder.parameter = none ∨ ∃ c, decoder = ⟨.bracketed, some c⟩ ∧ c.isDigit = true

private theorem tidy_feed {decoder : Decoder} (tidy : Tidy decoder) (c : Char) : Tidy (decoder.feed c).1 := by
  obtain ⟨stage, parameter⟩ := decoder
  cases stage with
  | normal =>
    obtain none | ⟨_, inside, -⟩ := tidy
    · simp only [Decoder.feed]
      split
      · exact .inl none
      · exact .inl none
    · cases inside
  | escape =>
    obtain none | ⟨_, inside, -⟩ := tidy
    · simp only [Decoder.feed]
      split
      · exact .inl none
      · split
        · exact .inl rfl
        · split
          · exact .inl none
          · exact .inl none
    · cases inside
  | bracketed =>
    cases digit : c.isDigit with
    | true =>
      rw [feed_digit digit]
      exact .inr ⟨c, rfl, digit⟩
    | false =>
      rw [feed_final digit]
      exact .inl rfl

private theorem tidy_feedAll {decoder : Decoder} (tidy : Tidy decoder) (chars : Text) :
    Tidy (decoder.feedAll chars).1 := by
  induction chars generalizing decoder with
  | nil => exact tidy
  | cons c chars ih => exact ih (tidy_feed tidy c)

/-- The decoder gives just the presses that were sent, in their order, and is as at the start behind
them. Whatever is sent, it holds a parameter only inside a sequence, and that is one digit. -/
theorem strokes_decoded :
    (∀ strokes : List Stroke,
      ({} : Decoder).feedAll (strokes.flatMap Stroke.written) = ({}, strokes.flatMap Stroke.keys)) ∧
    ∀ chars : Text, (({} : Decoder).feedAll chars).1.parameter = none ∨
      ∃ c, (({} : Decoder).feedAll chars).1 = ⟨.bracketed, some c⟩ ∧ c.isDigit = true :=
  ⟨feedAll_strokes, tidy_feedAll (.inl rfl)⟩

/-- A sequence forgets the digits of the one before it. -/
example : ({} : Decoder).feedAll ("\x1b[3\x1b\x1b[~3~" : String) = ({}, [.char '3', .char '~']) := rfl

end CommandShell.Proofs.KeyStrokes
