import CommandShell.Proofs.UnfinishedCharacters

/-! What is read from a terminal is the text of its bytes, wherever the reader is interrupted. The bytes that
it holds at the end are the beginning of a character, or of a surrogate, and are not read. -/

namespace CommandShell.Proofs.TerminalReads
open HeldBytes Terminal UnfinishedCharacters Utf8

def bytesOf (deliveries : List Delivery) : Bytes :=
  deliveries.filterMap fun
    | .byte value => some value
    | .interrupted => none

/-- Calls that read from a terminal one after the other, up to the first that gives nothing. -/
inductive Calls : Terminal → List Text → Prop
  | ended {terminal after : Terminal} (read : terminal.read = (none, after)) : Calls terminal []
  | text {terminal after : Terminal} {text : Text} {texts : List Text}
      (read : terminal.read = (some text, after)) (rest : Calls after texts) : Calls terminal (text :: texts)

private theorem calls_readAllFrom {held : Held} {deliveries : List Delivery} {terminal : Terminal}
    (holds : terminal.held = held) (left : terminal.deliveries = deliveries) :
    Calls terminal (readAllFrom held deliveries) := by
  fun_induction readAllFrom held deliveries generalizing terminal with
  | case1 held deliveries held' rest ended =>
    have read : terminal.read = (none, { terminal with held := held', deliveries := rest }) := by
      rw [Terminal.read, holds, left, ended]
    exact .ended read
  | case2 held deliveries text held' rest more ih =>
    have read : terminal.read = (some text, { terminal with held := held', deliveries := rest }) := by
      rw [Terminal.read, holds, left, more]
    exact .text read (ih rfl rfl)

private theorem readAllFrom_of_eq {held held' : Held} {deliveries deliveries' : List Delivery}
    (same : readFrom held deliveries = readFrom held' deliveries') :
    readAllFrom held deliveries = readAllFrom held' deliveries' := by
  rw [readAllFrom, readAllFrom, same]

/-- The texts that are read are those that the bytes complete, wherever the reader was interrupted. -/
theorem readAllFrom_eq (held : Held) (deliveries : List Delivery) :
    readAllFrom held deliveries = completed held (bytesOf deliveries) := by
  induction deliveries generalizing held with
  | nil =>
    rw [readAllFrom]
    rfl
  | cons delivery rest ih =>
    cases delivery with
    | interrupted => exact (readAllFrom_of_eq (by rw [readFrom])).trans (ih held)
    | byte value =>
      have read : readFrom held (.byte value :: rest) =
          if (held.take value).1.isEmpty then readFrom (held.take value).2 rest
          else (some (held.take value).1, (held.take value).2, rest) := rfl
      change _ = completed held (value :: bytesOf rest)
      rw [completed, ← ih]
      split
      next empty => exact readAllFrom_of_eq (by rw [read, if_pos empty])
      next filled => rw [readAllFrom, read, if_neg filled]

/-- What a new terminal gives, call by call until its end, is the text of its bytes without the character
that they end in the middle of. The first two bytes of a surrogate are left out like those of a character.
No call gives an empty text, and text that was sent comes one character at a time. -/
theorem reads_decoded (terminal : Terminal) (fresh : terminal.held = .nothing) :
    let bytes := bytesOf terminal.deliveries
    let texts := terminal.readAll
    Calls terminal texts ∧
    (∀ whole tail, bytes = whole ++ tail → Unfinished tail ∨ HalfSurrogate tail → texts.flatten = decode whole) ∧
    ((∀ tail, tail <:+ bytes → ¬ Unfinished tail ∧ ¬ HalfSurrogate tail) → texts.flatten = decode bytes) ∧
    (∀ text ∈ texts, text ≠ []) ∧
    ∀ t, bytes = encode t → texts = t.map ([·]) := by
  intro bytes texts
  refine ⟨calls_readAllFrom rfl rfl, ?_⟩
  have read : texts = completed .nothing bytes := by
    unfold texts
    rw [readAll, fresh, readAllFrom_eq]
  rw [read]
  refine ⟨fun whole tail same cut => ?_, fun uncut => ?_, completed_filled _ _, fun t same => ?_⟩
  · have silent : completed .nothing tail = [] := cut.elim Unfinished.silent HalfSurrogate.silent
    have filled : tail ≠ [] := by
      rcases cut with unfinished | ⟨byte, -, -, rfl⟩
      · exact unfinished.1
      · simp
    rw [same, completed_append, List.flatten_append, flatten_broken (bounded_heldAfter whole) filled silent,
      decode_eq whole]
  · have resting : heldAfter .nothing bytes = .nothing := by
      by_contra holds
      obtain ⟨whole, tail, same, filled, silent, -⟩ := exists_held holds
      obtain ⟨ended, no_half⟩ := uncut tail ⟨whole, same.symm⟩
      exact (unfinished_of_silent filled silent).elim ended no_half
    rw [decode_eq bytes, resting]
    exact (List.append_nil _).symm
  · rw [same, completed_text]

/-- A letter breaks off the character before it, and both are read at once. A byte of the sign behind them is
missing. -/
theorem torn_sign_left_out :
    let terminal : Terminal :=
      { deliveries := [.byte 0xF0, .interrupted, .byte 0x9F, .byte 0x98, .byte 0x41, .interrupted, .byte 0xE2,
          .byte 0x82, .interrupted]
        closed := true }
    terminal.held = .nothing ∧ bytesOf terminal.deliveries = [0xF0, 0x9F, 0x98, 0x41] ++ [0xE2, 0x82] ∧
      Unfinished [0xE2, 0x82] ∧ terminal.readAll.flatten = decode [0xF0, 0x9F, 0x98, 0x41] := by
  intro terminal
  have sign : Unfinished [0xE2, 0x82] := ⟨by simp, '€', [0xAC], by simp, by decide⟩
  exact ⟨rfl, rfl, sign, (reads_decoded terminal rfl).2.1 _ _ rfl (.inl sign)⟩

/-- Two bytes that begin no character are left out at the end, where decoding them replaces each. -/
theorem surrogate_left_out :
    let terminal : Terminal := { deliveries := [.byte 0xED, .byte 0xA0], closed := true }
    terminal.held = .nothing ∧ (∀ tail, tail <:+ bytesOf terminal.deliveries → ¬ Unfinished tail) ∧
      terminal.readAll.flatten = [] ∧ decode (bytesOf terminal.deliveries) = [replacement, replacement] := by
  intro terminal
  have read : terminal.readAll = completed .nothing [0xED, 0xA0] := readAllFrom_eq _ _
  refine ⟨rfl, fun tail last unfinished => ?_, by rw [read]; rfl, by decide⟩
  obtain rfl | last := List.suffix_cons_iff.mp last
  · exact unfinished.no_surrogate rfl
  · obtain rfl | last := List.suffix_cons_iff.mp last
    · exact absurd unfinished.silent (by decide)
    · exact unfinished.1 (List.suffix_nil.mp last)

end CommandShell.Proofs.TerminalReads
