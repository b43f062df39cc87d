import CommandShell.Text.Basic

/-!
Keys of a terminal. A terminal sends most keys as one character and the others as an escape
character followed by more. The decoder takes one character at a time and gives the key presses that
the character completes.
-/

namespace CommandShell

/-- A pressed key. -/
inductive Key
  | char (c : Char)
  | altEnter
  | up
  | down
  | right
  | left
  | shiftTab
  | delete
  | cancel
  deriving DecidableEq, Repr

namespace Key

/-- What the decoder has seen of a sequence: nothing, the escape character, or the escape character
and a bracket. -/
inductive Stage
  | normal
  | escape
  | bracketed
  deriving DecidableEq, Repr

/-- The stage of the decoder and the latest digit of a bracketed sequence. -/
structure Decoder where
  stage : Stage := .normal
  parameter : Option Char := none
  deriving DecidableEq, Repr

/-- The character that starts a sequence. -/
def escapeChar : Char := '\x1b'

/-- The key that a character ends a bracketed sequence as. -/
def ofFinal? (parameter : Option Char) : Char → Option Key
  | 'A' => some up
  | 'B' => some down
  | 'C' => some right
  | 'D' => some left
  | 'Z' => some shiftTab
  | '~' => if parameter = some '3' then some delete else none
  | _ => none

namespace Decoder

/-- The presses that the next character completes, and the decoder after it. -/
def feed (decoder : Decoder) (c : Char) : Decoder × List Key :=
  match decoder.stage with
  | .normal =>
    if c = escapeChar then ({ decoder with stage := .escape }, [])
    else (decoder, [char c])
  | .escape =>
    if c = escapeChar then (decoder, [cancel])
    else if c = '[' then ({ stage := .bracketed, parameter := none }, [])
    else if c = '\r' ∨ c = '\n' then ({ decoder with stage := .normal }, [altEnter])
    else ({ decoder with stage := .normal }, [cancel, char c])
  | .bracketed =>
    if c.isDigit then ({ decoder with parameter := some c }, [])
    else ({ stage := .normal, parameter := none }, (ofFinal? decoder.parameter c).toList)

/-- The presses that a text completes, and the decoder after it. -/
def feedAll (decoder : Decoder) : Text → Decoder × List Key
  | [] => (decoder, [])
  | c :: rest =>
    let (decoder, keys) := decoder.feed c
    let (decoder, more) := feedAll decoder rest
    (decoder, keys ++ more)

end Decoder

end Key

end CommandShell
