import CommandShell.Text.Basic

/-!
Text as bytes. The decoder takes one byte at a time and gives the characters that the byte
completes. Bytes that belong to no character become replacement characters, one for each longest
beginning of a character that the next byte breaks off.
-/

namespace CommandShell

abbrev Bytes := List UInt8

namespace Utf8

def encode (t : Text) : Bytes := t.flatMap String.utf8EncodeChar

/-- Stands for bytes that are no character. -/
def replacement : Char := Char.ofNat 0xFFFD

/-- A character of which some bytes have come: the bits so far, the number of bytes still owed, and
the bounds of the next one. -/
structure Started where
  bits : Nat
  owed : Nat
  low : Nat := 0x80
  high : Nat := 0xBF
  deriving DecidableEq, Repr

/-- What one byte gives: characters, and a character that it leaves started. -/
structure Step where
  given : Text
  started : Option Started
  broken : Bool := false
  deriving DecidableEq, Repr

/-- A byte that comes between characters. -/
def Step.first (byte : UInt8) : Step :=
  let b := byte.toNat
  if b < 0x80 then { given := [Char.ofNat b], started := none }
  else if b < 0xC2 then { given := [replacement], started := none, broken := true }
  else if b < 0xE0 then { given := [], started := some { bits := b - 0xC0, owed := 1 } }
  else if b = 0xE0 then { given := [], started := some { bits := 0, owed := 2, low := 0xA0 } }
  else if b = 0xED then { given := [], started := some { bits := 0xD, owed := 2, high := 0x9F } }
  else if b < 0xF0 then { given := [], started := some { bits := b - 0xE0, owed := 2 } }
  else if b = 0xF0 then { given := [], started := some { bits := 0, owed := 3, low := 0x90 } }
  else if b < 0xF4 then { given := [], started := some { bits := b - 0xF0, owed := 3 } }
  else if b = 0xF4 then { given := [], started := some { bits := 4, owed := 3, high := 0x8F } }
  else { given := [replacement], started := none, broken := true }

/-- The next byte. One outside its bounds breaks the started character off and begins anew. -/
def Step.next : Option Started → UInt8 → Step
  | none, byte => .first byte
  | some s, byte =>
    if s.low ≤ byte.toNat ∧ byte.toNat ≤ s.high then
      let bits := s.bits * 64 + (byte.toNat - 0x80)
      if s.owed ≤ 1 then { given := [Char.ofNat bits], started := none }
      else { given := [], started := some { bits, owed := s.owed - 1 } }
    else
      let again := Step.first byte
      { given := replacement :: again.given, started := again.started, broken := true }

/-- The characters of bytes after a started character. One that stays unfinished is replaced. -/
def decodeFrom : Option Started → Bytes → Text
  | none, [] => []
  | some _, [] => [replacement]
  | started, byte :: rest =>
    let step := Step.next started byte
    step.given ++ decodeFrom step.started rest

/-- The characters of bytes, with replacements for what is no character. -/
def decode (bytes : Bytes) : Text := decodeFrom none bytes

/-- The characters of bytes after a started character, if the bytes are text throughout. -/
def decodeFrom? : Option Started → Bytes → Option Text
  | none, [] => some []
  | some _, [] => none
  | started, byte :: rest =>
    let step := Step.next started byte
    if step.broken then none else (decodeFrom? step.started rest).map (step.given ++ ·)

/-- The characters of bytes that are text throughout. -/
def decode? (bytes : Bytes) : Option Text := decodeFrom? none bytes

end Utf8

end CommandShell
