import CommandShell.Proofs.Utf8Text
import CommandShell.Terminal
import Mathlib.Data.List.Induction

/-! The bytes that the reader of a terminal holds, and what those that follow complete. Nothing of the text
is lost: what was completed and what would be made of the bytes that are held is the text of all bytes. -/

namespace CommandShell.Proofs.HeldBytes
open Utf8 Utf8Text

def heldAfter (held : Held) (bytes : Bytes) : Held := bytes.foldl (fun held byte => (held.take byte).2) held

/-- What bytes complete, one text for each byte that completes any. -/
def completed : Held → Bytes → List Text
  | _, [] => []
  | held, byte :: rest =>
    let later := completed (held.take byte).2 rest
    if (held.take byte).1.isEmpty then later else (held.take byte).1 :: later

section Completed

variable (held : Held) (front rest : Bytes)

theorem heldAfter_append : heldAfter held (front ++ rest) = heldAfter (heldAfter held front) rest :=
  List.foldl_append

theorem completed_append :
    completed held (front ++ rest) = completed held front ++ completed (heldAfter held front) rest := by
  induction front generalizing held with
  | nil => rfl
  | cons byte front ih =>
    simp only [List.cons_append, completed, ih]
    split
    · rfl
    · rfl

theorem completed_filled (bytes : Bytes) : ∀ text ∈ completed held bytes, text ≠ [] := by
  induction bytes generalizing held with
  | nil => exact nofun
  | cons byte bytes ih =>
    rw [completed]
    split
    next => exact ih _
    next filled => exact List.forall_mem_cons.mpr ⟨fun empty => filled (List.isEmpty_iff.mpr empty), ih _⟩

theorem flatten_cons (byte : UInt8) :
    (completed held (byte :: rest)).flatten =
      (held.take byte).1 ++ (completed (held.take byte).2 rest).flatten := by
  rw [completed]
  split
  next empty => rw [List.isEmpty_iff.mp empty, List.nil_append]
  next => rw [List.flatten_cons]

end Completed

theorem silent_cons {held : Held} {byte : UInt8} {rest : Bytes} :
    completed held (byte :: rest) = [] ↔ (held.take byte).1 = [] ∧ completed (held.take byte).2 rest = [] := by
  rw [completed]
  split
  next empty => exact (and_iff_right (List.isEmpty_iff.mp empty)).symm
  next filled => exact iff_of_false (List.cons_ne_nil _ _) fun both => filled (List.isEmpty_iff.mpr both.1)

def decodeHeld : Held → Bytes → Text
  | .nothing, bytes => decode bytes
  | .character started, bytes => decodeFrom (some started) bytes
  | .surrogate, bytes => replacement :: replacement :: decode bytes

theorem decodeHeld_ofStep (step : Step) (bytes : Bytes) :
    decodeHeld (Held.ofStep step) bytes = decodeFrom step.started bytes := by
  unfold Held.ofStep
  cases step.started with
  | none | some => rfl

private theorem first_continuation {byte : UInt8} (low : 0x80 ≤ byte.toNat) (high : byte.toNat < 0xC2) :
    Step.first byte = { given := [replacement], started := none, broken := true } := by
  simp only [Step.first]
  rw [if_neg (by omega), if_pos high]

theorem startsSurrogate_iff {started : Started} {byte : UInt8} : Held.startsSurrogate started byte = true ↔
    started.owed = 2 ∧ started.high = 0x9F ∧ 0xA0 ≤ byte.toNat ∧ byte.toNat ≤ 0xBF := by
  simp only [Held.startsSurrogate, Bool.and_eq_true, decide_eq_true_eq, and_assoc]

theorem next_outside {started : Started} {byte : UInt8}
    (outside : ¬ (started.low ≤ byte.toNat ∧ byte.toNat ≤ started.high)) :
    Step.next (some started) byte =
      { given := replacement :: (Step.first byte).given, started := (Step.first byte).started,
        broken := true } := by
  rw [Step.next, if_neg outside]

/-- What one byte completes is the start of the text of the bytes from it on. -/
theorem decodeHeld_cons (held : Held) (byte : UInt8) (rest : Bytes) :
    decodeHeld held (byte :: rest) = (held.take byte).1 ++ decodeHeld (held.take byte).2 rest := by
  cases held with
  | nothing =>
    rw [Held.take, decodeHeld_ofStep]
    rfl
  | surrogate =>
    rw [Held.take, decodeHeld_ofStep]
    rfl
  | character started =>
    rw [Held.take]
    split
    next starts =>
      obtain ⟨-, high, above, below⟩ := startsSurrogate_iff.mp starts
      have step : Step.next (some started) byte = _ := next_outside (by omega)
      rw [first_continuation (by omega) (by omega)] at step
      rw [decodeHeld, decodeFrom, step]
      rfl
    next =>
      rw [decodeHeld_ofStep]
      rfl

private theorem decodeHeld_append (held : Held) (front rest : Bytes) :
    decodeHeld held (front ++ rest) =
      (completed held front).flatten ++ decodeHeld (heldAfter held front) rest := by
  induction front generalizing held with
  | nil => rfl
  | cons byte front ih =>
    rw [List.cons_append, decodeHeld_cons, ih, flatten_cons, List.append_assoc]
    rfl

/-- What is read, and what would be made of the bytes that are held at the end, is the text of all bytes. -/
theorem decode_eq (bytes : Bytes) :
    decode bytes = (completed .nothing bytes).flatten ++ decodeHeld (heldAfter .nothing bytes) [] := by
  have whole := decodeHeld_append .nothing bytes []
  rwa [List.append_nil] at whole

theorem first_silent (byte : UInt8) : (Step.first byte).given = [] ↔ (Step.first byte).started ≠ none := by
  fun_cases Step.first byte <;> simp

private theorem next_silent (started : Option Started) (byte : UInt8) :
    (Step.next started byte).given = [] → (Step.next started byte).started ≠ none := by
  cases started with
  | none => exact (first_silent byte).mp
  | some started =>
    simp only [Step.next]
    split
    · split
      · exact fun silent => absurd silent (List.cons_ne_nil _ _)
      · exact fun _ => Option.some_ne_none _
    · exact fun silent => absurd silent (List.cons_ne_nil _ _)

theorem ofStep_ne_nothing (step : Step) : Held.ofStep step ≠ .nothing ↔ step.started ≠ none := by
  unfold Held.ofStep
  cases step.started with
  | none => simp
  | some => simp

theorem take_started {started : Started} {byte : UInt8} (other : ¬ Held.startsSurrogate started byte = true) :
    (Held.character started).take byte =
      ((Step.next (some started) byte).given, Held.ofStep (Step.next (some started) byte)) :=
  if_neg other

private theorem take_silent {held : Held} {byte : UInt8} (silent : (held.take byte).1 = []) :
    (held.take byte).2 ≠ .nothing := by
  cases held with
  | nothing => exact (ofStep_ne_nothing _).mpr ((first_silent byte).mp silent)
  | surrogate => cases silent
  | character started =>
    by_cases starts : Held.startsSurrogate started byte = true
    · rw [Held.take, if_pos starts]
      nofun
    · rw [take_started starts] at silent ⊢
      exact (ofStep_ne_nothing _).mpr (next_silent _ byte silent)

private theorem take_anew {held : Held} {byte : UInt8} (filled : (held.take byte).1 ≠ [])
    (holds : (held.take byte).2 ≠ .nothing) : Held.nothing.take byte = ([], (held.take byte).2) := by
  have first (same : (held.take byte).2 = Held.ofStep (Step.first byte)) :
      Held.nothing.take byte = ([], (held.take byte).2) := by
    rw [same] at holds ⊢
    rw [Held.take, (first_silent byte).mpr ((ofStep_ne_nothing _).mp holds)]
  cases held with
  | nothing | surrogate => exact first rfl
  | character started =>
    by_cases starts : Held.startsSurrogate started byte = true
    · rw [Held.take, if_pos starts] at filled
      exact absurd rfl filled
    · by_cases inside : started.low ≤ byte.toNat ∧ byte.toNat ≤ started.high
      · simp only [take_started starts, Step.next, if_pos inside] at filled holds
        split at filled
        next last =>
          rw [if_pos last] at holds
          exact absurd rfl holds
        next => exact absurd rfl filled
      · refine first ?_
        rw [take_started starts, next_outside inside]
        rfl

theorem take_more {started : Started} {byte : UInt8} (silent : ((Held.character started).take byte).1 = []) :
    Held.startsSurrogate started byte = true ∧ (Held.character started).take byte = ([], .surrogate) ∨
    (started.low ≤ byte.toNat ∧ byte.toNat ≤ started.high) ∧ 2 ≤ started.owed ∧
      (Held.character started).take byte = ([], .character
        { bits := started.bits * 64 + (byte.toNat - 0x80), owed := started.owed - 1 }) := by
  by_cases starts : Held.startsSurrogate started byte = true
  · exact .inl ⟨starts, if_pos starts⟩
  · rw [take_started starts] at silent ⊢
    by_cases inside : started.low ≤ byte.toNat ∧ byte.toNat ≤ started.high
    · simp only [Step.next, if_pos inside] at silent ⊢
      split at silent
      next => cases silent
      next more =>
        rw [if_neg more]
        exact .inr ⟨inside, Nat.not_le.mp more, rfl⟩
    · rw [next_outside inside] at silent
      cases silent

theorem silent_surrogate {rest : Bytes} (silent : completed .surrogate rest = []) : rest = [] := by
  cases rest with
  | nil => rfl
  | cons byte rest => cases (silent_cons.mp silent).1

theorem silent_last {started : Started} {rest : Bytes} (last : started.owed = 1)
    (silent : completed (.character started) rest = []) : rest = [] := by
  cases rest with
  | nil => rfl
  | cons byte rest =>
    obtain ⟨starts, -⟩ | ⟨-, more, -⟩ := take_more (silent_cons.mp silent).1
    · have two := (startsSurrogate_iff.mp starts).1
      omega
    · omega

theorem completed_of_resting {held : Held} {bytes : Bytes} (filled : bytes ≠ [])
    (resting : heldAfter held bytes = .nothing) : completed held bytes ≠ [] := by
  cases bytes using List.reverseRecOn with
  | nil => exact absurd rfl filled
  | append_singleton front byte =>
    rw [heldAfter_append] at resting
    rw [completed_append, completed]
    split
    next empty => exact absurd resting (take_silent (List.isEmpty_iff.mp empty))
    next => simp

/-- What is held at the end are the last bytes, which complete nothing. -/
theorem exists_held {bytes : Bytes} (holds : heldAfter .nothing bytes ≠ .nothing) :
    ∃ whole tail, bytes = whole ++ tail ∧ tail ≠ [] ∧ completed .nothing tail = [] ∧
      heldAfter .nothing tail = heldAfter .nothing bytes := by
  induction bytes using List.reverseRecOn with
  | nil => exact absurd rfl holds
  | append_singleton front byte ih =>
    rw [heldAfter_append] at holds ⊢
    by_cases filled : ((heldAfter .nothing front).take byte).1 = []
    · by_cases resting : heldAfter .nothing front = .nothing
      · rw [resting] at filled ⊢
        refine ⟨front, [byte], rfl, by simp, ?_, rfl⟩
        rw [completed, filled]
        rfl
      · obtain ⟨whole, tail, rfl, some_tail, silent, same⟩ := ih resting
        refine ⟨whole, tail ++ [byte], List.append_assoc _ _ _, by simp, ?_, ?_⟩
        · rw [completed_append, silent, same, completed, filled]
          rfl
        · rw [heldAfter_append, same]
    · have anew := take_anew filled holds
      refine ⟨front, [byte], rfl, by simp, ?_, ?_⟩
      · rw [completed, anew]
        rfl
      · rw [heldAfter, List.foldl_cons, anew]
        rfl

/-- The next byte of a character that is held is below those that begin a character of several bytes. -/
def Bounded : Held → Prop
  | .character started => started.high ≤ 0xBF
  | _ => True

private theorem bounded_first (byte : UInt8) : Bounded (Held.ofStep (Step.first byte)) := by
  fun_cases Step.first byte <;> simp [Held.ofStep, Bounded]

private theorem bounded_take (held : Held) (byte : UInt8) : Bounded (held.take byte).2 := by
  cases held with
  | nothing | surrogate => exact bounded_first byte
  | character started =>
    by_cases starts : Held.startsSurrogate started byte = true
    · rw [Held.take, if_pos starts]
      trivial
    · rw [take_started starts]
      by_cases inside : started.low ≤ byte.toNat ∧ byte.toNat ≤ started.high
      · simp only [Step.next, if_pos inside]
        split
        · trivial
        · exact Nat.le_refl _
      · rw [next_outside inside]
        exact bounded_first byte

theorem bounded_heldAfter (bytes : Bytes) : Bounded (heldAfter .nothing bytes) := by
  induction bytes using List.reverseRecOn with
  | nil => trivial
  | append_singleton front byte _ =>
    rw [heldAfter_append]
    exact bounded_take _ byte

private theorem first_beyond {byte : UInt8} (high : 0xF4 < byte.toNat) :
    Step.first byte = { given := [replacement], started := none, broken := true } := by
  simp only [Step.first]
  rw [if_neg (by omega), if_neg (by omega), if_neg (by omega), if_neg (by omega), if_neg (by omega),
    if_neg (by omega), if_neg (by omega), if_neg (by omega), if_neg (by omega)]

theorem lead_of_silent {byte : UInt8} (silent : (Step.first byte).given = []) :
    0xC2 ≤ byte.toNat ∧ byte.toNat ≤ 0xF4 := by
  refine ⟨?_, ?_⟩
  · by_contra low
    by_cases ascii : byte.toNat < 0x80
    · rw [first_single ascii] at silent
      cases silent
    · rw [first_continuation (by omega) (by omega)] at silent
      cases silent
  · by_contra high
    rw [first_beyond (by omega)] at silent
    cases silent

/-- Bytes that begin a character break off what was held before them. -/
theorem flatten_broken {held : Held} (bounded : Bounded held) {tail : Bytes} (filled : tail ≠ [])
    (silent : completed .nothing tail = []) : (completed held tail).flatten = decodeHeld held [] := by
  obtain ⟨byte, rest, rfl⟩ := List.exists_cons_of_ne_nil filled
  obtain ⟨begun, quiet⟩ := silent_cons.mp silent
  have begun : (Step.first byte).given = [] := begun
  have quiet : completed (Held.ofStep (Step.first byte)) rest = [] := quiet
  have lead := lead_of_silent begun
  rw [flatten_cons]
  cases held with
  | nothing | surrogate =>
    rw [Held.take, begun, quiet]
    rfl
  | character started =>
    have bound : started.high ≤ 0xBF := bounded
    have starts : ¬ Held.startsSurrogate started byte = true := by
      rw [startsSurrogate_iff]
      omega
    have same : Held.ofStep (Step.next (some started) byte) = Held.ofStep (Step.first byte) := by
      rw [next_outside (by omega)]
      rfl
    rw [take_started starts, same, quiet, next_outside (by omega), begun]
    rfl

theorem mem_decodeHeld {held : Held} (holds : held ≠ .nothing) : replacement ∈ decodeHeld held [] := by
  cases held with
  | nothing => exact absurd rfl holds
  | character | surrogate => exact List.mem_cons_self

end CommandShell.Proofs.HeldBytes
