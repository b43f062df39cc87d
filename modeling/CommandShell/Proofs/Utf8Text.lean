import CommandShell.Text.Utf8

/-! Text that is written as bytes is read back, also behind bytes that are no text. -/

namespace CommandShell.Proofs.Utf8Text
open Utf8

theorem first_single {byte : UInt8} (low : byte.toNat < 0x80) :
    Step.first byte = { given := [Char.ofNat byte.toNat], started := none } := if_pos low

theorem first_double {byte : UInt8} (low : 0xC2 ≤ byte.toNat) (high : byte.toNat < 0xE0) :
    Step.first byte = { given := [], started := some { bits := byte.toNat - 0xC0, owed := 1 } } := by
  simp only [Step.first]
  rw [if_neg (by omega), if_neg (by omega), if_pos high]

theorem first_triple {byte : UInt8} (low : 0xE0 ≤ byte.toNat) (high : byte.toNat < 0xF0) :
    Step.first byte = { given := [], started := some {
      bits := byte.toNat - 0xE0, owed := 2
      low := if byte.toNat = 0xE0 then 0xA0 else 0x80
      high := if byte.toNat = 0xED then 0x9F else 0xBF } } := by
  simp only [Step.first]
  rw [if_neg (by omega), if_neg (by omega), if_neg (by omega)]
  by_cases least : byte.toNat = 0xE0
  · simp [least]
  · by_cases surrogates : byte.toNat = 0xED
    · simp [surrogates]
    · simp [least, surrogates, high]

theorem first_quadruple {byte : UInt8} (low : 0xF0 ≤ byte.toNat) (high : byte.toNat ≤ 0xF4) :
    Step.first byte = { given := [], started := some {
      bits := byte.toNat - 0xF0, owed := 3
      low := if byte.toNat = 0xF0 then 0x90 else 0x80
      high := if byte.toNat = 0xF4 then 0x8F else 0xBF } } := by
  simp only [Step.first]
  rw [if_neg (by omega), if_neg (by omega), if_neg (by omega), if_neg (by omega), if_neg (by omega),
    if_neg (by omega)]
  by_cases least : byte.toNat = 0xF0
  · simp [least]
  · by_cases most : byte.toNat = 0xF4
    · simp [most]
    · rw [if_neg least, if_pos (by omega)]
      simp [least, most]

theorem decodeFrom_first {byte : UInt8} {given : Text} {started : Option Started}
    (first : Step.first byte = { given, started }) (rest : Bytes) :
    decodeFrom none (byte :: rest) = given ++ decodeFrom started rest := by
  rw [decodeFrom, Step.next, first]

section Continued

variable {started : Started} {byte : UInt8} (inside : started.low ≤ byte.toNat ∧ byte.toNat ≤ started.high)

include inside

theorem decodeFrom_last (owed : started.owed = 1) (rest : Bytes) :
    decodeFrom (some started) (byte :: rest) =
      Char.ofNat (started.bits * 64 + (byte.toNat - 0x80)) :: decodeFrom none rest := by
  simp only [decodeFrom, Step.next, if_pos inside, owed, Nat.le_refl, if_true, List.singleton_append]

theorem decodeFrom_more (owed : Nat) (more : started.owed = owed + 2) (rest : Bytes) :
    decodeFrom (some started) (byte :: rest) =
      decodeFrom (some { bits := started.bits * 64 + (byte.toNat - 0x80), owed := owed + 1 }) rest := by
  simp only [decodeFrom, Step.next, if_pos inside, more]
  rfl

end Continued

theorem toNat_ofNat {n : Nat} (small : n < 256) : (UInt8.ofNat n).toNat = n :=
  UInt8.toNat_ofNat_of_lt small

theorem toNat_later (n : Nat) : (UInt8.ofNat (n % 64 + 128)).toNat = n % 64 + 128 :=
  toNat_ofNat (by omega)

section Encoded

variable {v : Nat} (rest : Bytes)

private theorem decodeFrom_double (low : 0x80 ≤ v) (high : v < 0x800) :
    decodeFrom none (UInt8.ofNat (v / 64 % 32 + 192) :: UInt8.ofNat (v % 64 + 128) :: rest) =
      Char.ofNat v :: decodeFrom none rest := by
  have first : (UInt8.ofNat (v / 64 % 32 + 192)).toNat = v / 64 % 32 + 192 := toNat_ofNat (by omega)
  have second := toNat_later v
  have bits : ((v / 64 % 32 + 192) - 0xC0) * 64 + ((v % 64 + 128) - 0x80) = v := by omega
  rw [decodeFrom_first (first_double (by omega) (by omega)), List.nil_append,
    decodeFrom_last (by dsimp only; omega) rfl, first, second, bits]

private theorem decodeFrom_triple (low : 0x800 ≤ v) (high : v < 0x10000)
    (valid : v < 0xD800 ∨ 0xDFFF < v) :
    decodeFrom none (UInt8.ofNat (v / 4096 % 16 + 224) :: UInt8.ofNat (v / 64 % 64 + 128) ::
        UInt8.ofNat (v % 64 + 128) :: rest) = Char.ofNat v :: decodeFrom none rest := by
  have first : (UInt8.ofNat (v / 4096 % 16 + 224)).toNat = v / 4096 % 16 + 224 :=
    toNat_ofNat (by omega)
  have second := toNat_later (v / 64)
  have third := toNat_later v
  have bits : (((v / 4096 % 16 + 224) - 0xE0) * 64 + ((v / 64 % 64 + 128) - 0x80)) * 64 +
      ((v % 64 + 128) - 0x80) = v := by omega
  rw [decodeFrom_first (first_triple (by omega) (by omega)), List.nil_append,
    decodeFrom_more ?inside 0 rfl, decodeFrom_last (by dsimp only; omega) rfl]
  · dsimp only
    rw [first, second, third, bits]
  case inside =>
    dsimp only
    rw [first, second]
    constructor
    · split
      · omega
      · omega
    · split
      · omega
      · omega

private theorem decodeFrom_quadruple (low : 0x10000 ≤ v) (high : v < 0x110000) :
    decodeFrom none (UInt8.ofNat (v / 262144 % 8 + 240) :: UInt8.ofNat (v / 4096 % 64 + 128) ::
        UInt8.ofNat (v / 64 % 64 + 128) :: UInt8.ofNat (v % 64 + 128) :: rest) =
      Char.ofNat v :: decodeFrom none rest := by
  have first : (UInt8.ofNat (v / 262144 % 8 + 240)).toNat = v / 262144 % 8 + 240 :=
    toNat_ofNat (by omega)
  have second := toNat_later (v / 4096)
  have third := toNat_later (v / 64)
  have fourth := toNat_later v
  have bits : ((((v / 262144 % 8 + 240) - 0xF0) * 64 + ((v / 4096 % 64 + 128) - 0x80)) * 64 +
      ((v / 64 % 64 + 128) - 0x80)) * 64 + ((v % 64 + 128) - 0x80) = v := by omega
  rw [decodeFrom_first (first_quadruple (by omega) (by omega)), List.nil_append,
    decodeFrom_more ?inside 1 rfl,
    decodeFrom_more (by dsimp only; omega) 0 rfl, decodeFrom_last (by dsimp only; omega) rfl]
  · dsimp only
    rw [first, second, third, fourth, bits]
  case inside =>
    dsimp only
    rw [first, second]
    constructor
    · split
      · omega
      · omega
    · split
      · omega
      · omega

end Encoded

private theorem decodeFrom_utf8EncodeChar (c : Char) (rest : Bytes) :
    decodeFrom none (String.utf8EncodeChar c ++ rest) = c :: decodeFrom none rest := by
  have known : Char.ofNat c.val.toNat = c := Char.ofNat_toNat c
  have valid : c.val.toNat < 0xD800 ∨ 0xDFFF < c.val.toNat ∧ c.val.toNat < 0x110000 := c.valid
  simp only [String.utf8EncodeChar]
  generalize c.val.toNat = v at known valid
  rw [← known]
  split
  next single =>
    have first : (UInt8.ofNat v).toNat = v := toNat_ofNat (by omega)
    rw [List.singleton_append, decodeFrom_first (first_single (by omega)), first]
    rfl
  next =>
    split
    next => exact decodeFrom_double rest (by omega) (by omega)
    next =>
      split
      next => exact decodeFrom_triple rest (by omega) (by omega) (by omega)
      next => exact decodeFrom_quadruple rest (by omega) (by omega)

theorem decode_encode (t : Text) : decode (encode t) = t := by
  unfold decode encode
  induction t with
  | nil => rfl
  | cons c rest ih => rw [List.flatMap_cons, decodeFrom_utf8EncodeChar, ih]

theorem decode?_encode {t : Text} (ascii : ∀ c ∈ t, c.toNat < 0x80) : decode? (encode t) = some t := by
  unfold decode? encode
  induction t with
  | nil => rfl
  | cons c rest ih =>
    obtain ⟨low, others⟩ := List.forall_mem_cons.mp ascii
    have single : c.val.toNat ≤ 127 := Nat.le_of_lt_succ low
    have byte : (UInt8.ofNat c.val.toNat).toNat = c.toNat := toNat_ofNat (by omega)
    rw [List.flatMap_cons, String.utf8EncodeChar, if_pos single, List.singleton_append, decodeFrom?, Step.next,
      first_single (by omega), byte, Char.ofNat_toNat, ih others]
    rfl

/-- The next byte of a started character is above those of the first 128 characters. -/
def Owes : Option Started → Prop
  | none => True
  | some started => 0x80 ≤ started.low

private theorem owes_first (byte : UInt8) : Owes (Step.first byte).started := by
  fun_cases Step.first byte <;> simp [Owes]

private theorem owes_next {started : Option Started} (owes : Owes started) (byte : UInt8) :
    Owes (Step.next started byte).started := by
  cases started with
  | none => exact owes_first byte
  | some started =>
    simp only [Step.next]
    split
    · split
      · trivial
      · exact Nat.le_refl _
    · exact owes_first byte

/-- Bytes that begin with one of the first 128 characters are read the same whatever stands before
them. -/
theorem decodeFrom_append {started : Option Started} (owes : Owes started) (front : Bytes) {byte : UInt8}
    (low : byte.toNat < 0x80) (rest : Bytes) :
    decodeFrom started (front ++ byte :: rest) =
      decodeFrom started front ++ decodeFrom none (byte :: rest) := by
  induction front generalizing started with
  | nil =>
    cases started with
    | none => rfl
    | some started =>
      have below : ¬ (started.low ≤ byte.toNat ∧ byte.toNat ≤ started.high) := by
        have bound : 0x80 ≤ started.low := owes
        omega
      simp only [List.nil_append, decodeFrom, Step.next, if_neg below, List.cons_append]
  | cons first front ih =>
    rw [List.cons_append, decodeFrom, decodeFrom, ih (owes_next owes first), List.append_assoc]

theorem decode_append {t : Text} (starts : ∀ c ∈ t.head?, c.toNat < 0x80) (front : Bytes) :
    decode (front ++ encode t) = decode front ++ t := by
  cases t with
  | nil => simp [encode]
  | cons c rest =>
    have single : c.val.toNat ≤ 127 := Nat.le_of_lt_succ (starts c rfl)
    have whole := decode_encode (c :: rest)
    have encoded : encode (c :: rest) = UInt8.ofNat c.val.toNat :: encode rest := by
      simp only [encode, List.flatMap_cons, String.utf8EncodeChar, if_pos single, List.singleton_append]
    unfold decode at whole ⊢
    rw [encoded] at whole ⊢
    have low : (UInt8.ofNat c.val.toNat).toNat < 0x80 := by
      rw [toNat_ofNat (by omega)]
      omega
    have fresh : Owes none := trivial
    rw [decodeFrom_append fresh front low, whole]

end CommandShell.Proofs.Utf8Text
