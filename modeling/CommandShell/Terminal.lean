import CommandShell.Text.Utf8

/-!
The terminal that keys come from. Its bytes are taken one by one until they make characters. What
one byte completes is given at once: it may complete a character, and it may also break one off,
which is then replaced.
-/

namespace CommandShell

/-- What the reader of a terminal holds of a character that has not come in full. The first two
bytes of a surrogate are held until the third one, although no character can come of them. -/
inductive Held
  | nothing
  | character (started : Utf8.Started)
  | surrogate
  deriving DecidableEq, Repr

namespace Held

/-- What is held after a step of the decoder. -/
def ofStep (step : Utf8.Step) : Held :=
  match step.started with
  | none => nothing
  | some started => character started

/-- Whether a byte makes a started character the beginning of a surrogate. -/
def startsSurrogate (started : Utf8.Started) (byte : UInt8) : Bool :=
  started.owed = 2 && started.high = 0x9F && 0xA0 ≤ byte.toNat && byte.toNat ≤ 0xBF

/-- The characters that a byte completes, and what is held after it. -/
def take : Held → UInt8 → Text × Held
  | nothing, byte =>
    let step := Utf8.Step.first byte
    (step.given, ofStep step)
  | character started, byte =>
    if startsSurrogate started byte then ([], surrogate)
    else
      let step := Utf8.Step.next (some started) byte
      (step.given, ofStep step)
  | surrogate, byte =>
    let step := Utf8.Step.first byte
    (Utf8.replacement :: Utf8.replacement :: step.given, ofStep step)

end Held

/-- What one attempt to read from a terminal gives: a byte, or nothing because it was interrupted.
-/
inductive Delivery
  | byte (value : UInt8)
  | interrupted
  deriving DecidableEq, Repr

/-- What waiting for a terminal shows. -/
inductive Readiness
  | ready
  | timeout
  | failed
  deriving DecidableEq, Repr

/-- A terminal: what will be read from it, whether more can come, what its reader holds, whether it
can be waited for, whether a person sits at it, and whether it gives keys one by one. -/
structure Terminal where
  deliveries : List Delivery := []
  closed : Bool := false
  held : Held := .nothing
  usable : Bool := true
  interactive : Bool := false
  raw : Bool := false
  deriving DecidableEq, Repr

namespace Terminal

def receive (terminal : Terminal) (bytes : Bytes) : Terminal :=
  { terminal with deliveries := terminal.deliveries ++ bytes.map Delivery.byte }

/-- What waiting shows without waiting. The end of input can be read too. -/
def readiness (terminal : Terminal) : Readiness :=
  if !terminal.usable then .failed
  else if terminal.deliveries.isEmpty && !terminal.closed then .timeout
  else .ready

/-- The characters of the first byte that completes any, what is held then, and what is left. -/
def readFrom : Held → List Delivery → Option Text × Held × List Delivery
  | held, [] => (none, held, [])
  | held, .interrupted :: rest => readFrom held rest
  | held, .byte value :: rest =>
    let (given, held) := held.take value
    if given.isEmpty then readFrom held rest else (some given, held, rest)

theorem length_readFrom_lt {held held' : Held} {deliveries rest : List Delivery} {given : Text}
    (read : readFrom held deliveries = (some given, held', rest)) :
    rest.length < deliveries.length := by
  fun_induction readFrom held deliveries with
  | case1 => simp at read
  | case2 held later ih =>
    have shorter := ih read
    simp only [List.length_cons]
    omega
  | case3 held value later given' held'' took empty ih =>
    have shorter := ih read
    simp only [List.length_cons]
    omega
  | case4 held value later given' held'' took filled =>
    obtain ⟨-, -, rfl⟩ : _ ∧ _ ∧ later = rest := by simpa using read
    simp

/-- Reads characters; none at the end of input. -/
def read (terminal : Terminal) : Option Text × Terminal :=
  let (given, held, deliveries) := readFrom terminal.held terminal.deliveries
  (given, { terminal with held, deliveries })

def readAllFrom (held : Held) (deliveries : List Delivery) : List Text :=
  match _read : readFrom held deliveries with
  | (none, _, _) => []
  | (some given, held, rest) => given :: readAllFrom held rest
termination_by deliveries.length
decreasing_by exact length_readFrom_lt _read

def readAll (terminal : Terminal) : List Text := readAllFrom terminal.held terminal.deliveries

/-- Makes the terminal give keys one by one, if a person sits at it. -/
def enterRaw (terminal : Terminal) : Terminal :=
  if terminal.interactive then { terminal with raw := true } else terminal

def leaveRaw (terminal : Terminal) : Terminal := { terminal with raw := false }

end Terminal

end CommandShell
