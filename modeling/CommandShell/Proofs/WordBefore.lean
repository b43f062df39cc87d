import CommandShell.Completion.Engine
import CommandShell.Proofs.KeyTurns

/-! The word before the cursor and the line in front of it. What is typed behind that word leaves the
line in front of it as it is. -/

namespace CommandShell.Proofs.WordBefore
open KeyTurns

variable {c : Char} {text : Text}

def front (text : Text) : Text := (text.reverse.dropWhile (!Text.isBlank ·)).reverse

theorem front_append (text : Text) : front text ++ Text.lastWord text = text := by
  rw [front, Text.lastWord, ← List.reverse_append, List.takeWhile_append_dropWhile, List.reverse_reverse]

theorem front_typed (text : Text) (sharp : Text.isBlank c = false) : front (text ++ [c]) = front text := by
  simp [front, sharp]

theorem lastWord_typed (text : Text) (sharp : Text.isBlank c = false) :
    Text.lastWord (text ++ [c]) = Text.lastWord text ++ [c] := by
  simp [Text.lastWord, sharp]

theorem lastWord_behind {b : Char} (blank : Text.isBlank b = true) (start : Text)
    (unbroken : ∀ c ∈ text, Text.isBlank c = false) : Text.lastWord (start ++ b :: text) = text := by
  have sharp (c) (inside : c ∈ text.reverse) : (!Text.isBlank c) = true := by
    rw [unbroken c (List.mem_reverse.mp inside)]
    rfl
  rw [Text.lastWord, List.reverse_append, List.reverse_cons, List.append_assoc,
    List.takeWhile_append_of_pos sharp, List.singleton_append, List.takeWhile_cons]
  simp [blank]

/-- What stands in front of a last word ends with a blank. -/
theorem front_ends (text : Text) :
    front text = [] ∨ ∃ start b, front text = start ++ [b] ∧ Text.isBlank b = true := by
  unfold front
  cases rest : text.reverse.dropWhile (!Text.isBlank ·) with
  | nil => exact .inl rfl
  | cons b start =>
    have blank := List.head?_dropWhile_not (!Text.isBlank ·) text.reverse
    rw [rest] at blank
    exact .inr ⟨start.reverse, b, List.reverse_cons, by simpa using blank⟩

theorem head?_words (text : Text) : (Text.words text).head? =
    (text.dropWhile Text.isBlank).head?.map fun c =>
      c :: (text.dropWhile Text.isBlank).tail.takeWhile (!Text.isBlank ·) := by
  rw [Text.words]
  split
  next none => rw [none]; rfl
  next c rest some => rw [some]; rfl

/-- Where something but blanks stands in front of the last word, the first word lies there. -/
theorem head?_words_front (filled : (Text.trim (front text)).isEmpty = false) :
    ∃ word, ∀ behind, (Text.words (front text ++ behind)).head? = some word := by
  obtain none | ⟨start, b, ends, blank⟩ := front_ends text
  · rw [none] at filled
    cases filled
  · rw [ends] at filled ⊢
    cases sharp : start.dropWhile Text.isBlank with
    | nil =>
      have blanks : (start ++ [b]).dropWhile Text.isBlank = [] := by
        rw [List.dropWhile_append, sharp]
        simp [blank]
      rw [Text.trim, Text.trimStart, blanks] at filled
      cases filled
    | cons d rest =>
      refine ⟨d :: rest.takeWhile (!Text.isBlank ·), fun behind => ?_⟩
      rw [head?_words, List.append_assoc, List.dropWhile_append, sharp]
      have stops : (rest ++ ([b] ++ behind)).takeWhile (!Text.isBlank ·) =
          rest.takeWhile (!Text.isBlank ·) := by
        have sharpEnd : ¬ (!Text.isBlank b) = true := by
          rw [blank]
          decide
        rw [List.singleton_append, List.takeWhile_append, List.takeWhile_cons, if_neg sharpEnd]
        split
        next whole =>
          rw [List.append_nil]
          exact ((List.takeWhile_prefix _).eq_of_length whole).symm
        next => rfl
      exact congrArg (fun taken => some (d :: taken)) stops

section Buffers

variable {buffer : LineBuffer} (inside : Inside buffer)

include inside

theorem before_eq : Text.before buffer.cursor buffer.text = buffer.before := Text.before_natCast inside

theorem cursorWord_eq : cursorWord buffer.text buffer.cursor = .ok (Text.lastWord buffer.before) := by
  have within : ¬ (buffer.cursor : Int) > buffer.text.length := by
    have := inside
    unfold Inside at this
    omega
  rw [cursorWord, if_neg within, before_eq inside]

private theorem length_before : buffer.before.length = buffer.cursor :=
  List.length_take.trans (Nat.min_eq_left inside)

theorem place_word {start word : Text} (whole : start ++ word = buffer.before) :
    (buffer.cursor : Int) - word.length = start.length ∧ buffer.text.take start.length = start := by
  have lengths := congrArg List.length whole
  rw [List.length_append, length_before inside] at lengths
  have text : start ++ (word ++ buffer.after) = buffer.text := by
    rw [← List.append_assoc, whole]
    exact List.take_append_drop _ _
  refine ⟨by omega, ?_⟩
  rw [← text]
  exact List.take_left

theorem before_word {start word : Text} (whole : start ++ word = buffer.before) :
    Text.before (buffer.cursor - word.length) buffer.text = start := by
  obtain ⟨place, kept⟩ := place_word inside whole
  have within : start.length ≤ buffer.text.length := by
    rw [← kept, List.length_take]
    exact Nat.min_le_right _ _
  rw [place, Text.before_natCast within, kept]

theorem before_insert (chars : Text) : (buffer.insert chars).before = buffer.before ++ chars := by
  have length : buffer.cursor + chars.length = (buffer.before ++ chars).length := by
    rw [List.length_append, length_before inside]
  calc (buffer.before ++ chars ++ buffer.after).take (buffer.cursor + chars.length)
      = (buffer.before ++ chars ++ buffer.after).take (buffer.before ++ chars).length := by rw [length]
    _ = buffer.before ++ chars := List.take_left

end Buffers

end CommandShell.Proofs.WordBefore
