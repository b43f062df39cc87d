import CommandShell.Text.Basic

/-!
Floating-point numbers of 64 bits, as exact values. A decimal is rounded to the nearest number, a
tie to the even one, and a number is written with the fewest digits that read back as the same.
-/

namespace CommandShell

/-- A 64-bit floating-point number. A finite one is `mantissa * 2 ^ exponent`. -/
inductive Binary64
  | nan
  | infinite (negative : Bool)
  | finite (negative : Bool) (mantissa : Nat) (exponent : Int)
  deriving DecidableEq, Repr

namespace Binary64

/-- The quotient rounded to the nearest integer, a tie to the even one. -/
def roundDiv (num den : Nat) : Nat :=
  let q := num / den
  let r := num % den
  if 2 * r < den then q else if den < 2 * r then q + 1 else q + q % 2

/-- The numerator and denominator of a fraction times a power of two. -/
def scale (num den : Nat) (exponent : Int) : Nat × Nat :=
  if exponent < 0 then (num, den * Nat.pow 2 (-exponent).toNat)
  else (num * Nat.pow 2 exponent.toNat, den)

/-- The least mantissa of 53 bits. -/
def leastMantissa : Nat := 0x10000000000000

/-- The number nearest to a fraction. -/
def ofFraction (negative : Bool) (num den : Nat) : Binary64 :=
  if num = 0 then .finite negative 0 (-1074)
  else
    let guess : Int := num.log2 - den.log2 - 52
    let (n, d) := scale num den (-guess)
    let exponent := max (-1074) (if n / d < leastMantissa then guess - 1 else guess)
    let (n, d) := scale num den (-exponent)
    let mantissa := roundDiv n d
    let (mantissa, exponent) :=
      if mantissa = 2 * leastMantissa then (leastMantissa, exponent + 1) else (mantissa, exponent)
    if exponent > 971 then .infinite negative else .finite negative mantissa exponent

/-- The number nearest to `digits * 10 ^ exponent`. -/
def ofDecimal (negative : Bool) (digits : Nat) (exponent : Int) : Binary64 :=
  let size : Int := (Nat.toDigits 10 digits).length + exponent
  if digits = 0 || size < -400 then .finite negative 0 (-1074)
  else if size > 400 then .infinite negative
  else if exponent < 0 then ofFraction negative digits (Nat.pow 10 (-exponent).toNat)
  else ofFraction negative (digits * Nat.pow 10 exponent.toNat) 1

/-- The position of the first digit of a positive fraction: `10 ^ p ≤ num / den < 10 ^ (p + 1)`. -/
def leading (num den : Nat) : Int :=
  if den ≤ num then (Nat.toDigits 10 (num / den)).length - 1
  else
    let zeros := (Nat.toDigits 10 (den / num)).length
    if num * Nat.pow 10 (zeros - 1) = den then -((zeros : Int) - 1) else -(zeros : Int)

/-- The digits, with the power of ten of the last one, of the point of a decimal grid that reads
back as the number: of the two neighbours the nearer, of two equally near the even one. -/
def onGrid? (mantissa : Nat) (exponent : Int) (place : Int) : Option Nat :=
  let lowGap := if mantissa = leastMantissa ∧ exponent > -1074 then 1 else 2
  let inGrid (quarters : Nat) : Nat × Nat :=
    let (n, d) := scale quarters 4 exponent
    if place < 0 then (n * Nat.pow 10 (-place).toNat, d) else (n, d * Nat.pow 10 place.toNat)
  let (n, d) := inGrid (4 * mantissa)
  let (low, lowD) := inGrid (4 * mantissa - lowGap)
  let (high, highD) := inGrid (4 * mantissa + 2)
  let closed := mantissa % 2 = 0
  let reads (c : Nat) : Bool :=
    (low < c * lowD || (closed && low = c * lowD)) &&
      (c * highD < high || (closed && c * highD = high))
  let floor := n / d
  let below := reads floor
  let above := reads (floor + 1)
  if below && above then some (roundDiv n d)
  else if below then some floor
  else if above then some (floor + 1)
  else none

/-- The fewest digits that read back as the number, searched from the given count on. -/
def shortestFrom (mantissa : Nat) (exponent : Int) (top : Int) : (tries count : Nat) → Nat × Int
  | 0, count => (0, top - count + 1)
  | tries + 1, count =>
    let place := top - count + 1
    match onGrid? mantissa exponent place with
    | some digits => (digits, place)
    | none => shortestFrom mantissa exponent top tries (count + 1)

/-- The shortest decimal that reads back as a positive number: its digits without zeros at the end,
and the position of the point relative to the first digit. -/
def shortest (mantissa : Nat) (exponent : Int) : Text × Int :=
  let (n, d) := scale mantissa 1 exponent
  let (digits, place) := shortestFrom mantissa exponent (leading n d) 17 1
  let all := Nat.toDigits 10 digits
  ((all.reverse.dropWhile (· == '0')).reverse, all.length + place)

/-- Positional notation up to 16 digits before the point and 4 zeros after it, and an exponent of at
least two digits otherwise. A point always stands before the exponent-free end. -/
def layout (digits : Text) (point : Int) : Text :=
  if -4 < point ∧ point ≤ 16 then
    if point ≤ 0 then "0." ++ List.replicate (-point).toNat '0' ++ digits
    else
      let whole := point.toNat
      if digits.length ≤ whole then digits ++ List.replicate (whole - digits.length) '0' ++ ".0"
      else digits.take whole ++ ('.' :: digits.drop whole)
  else
    let power := point - 1
    let size := Text.ofNat power.natAbs
    digits.take 1 ++ (if digits.length ≤ 1 then [] else '.' :: digits.drop 1) ++
      ('e' :: (if power < 0 then '-' else '+') :: List.replicate (2 - size.length) '0') ++ size

def text : Binary64 → Text
  | nan => "nan"
  | infinite negative => if negative then "-inf" else "inf"
  | finite negative mantissa exponent =>
    let sign : Text := if negative then "-" else ""
    if mantissa = 0 then sign ++ "0.0"
    else
      let (digits, point) := shortest mantissa exponent
      sign ++ layout digits point

/-- The whole part of a finite number, toward zero. -/
def whole? : Binary64 → Option Int
  | nan => none
  | infinite _ => none
  | finite negative mantissa exponent =>
    let (n, d) := scale mantissa 1 exponent
    some (if negative then -((n / d : Nat) : Int) else ((n / d : Nat) : Int))

def equalsInt (x : Binary64) (i : Int) : Bool :=
  match x with
  | nan => false
  | infinite _ => false
  | finite negative mantissa exponent =>
    let (n, d) := scale mantissa 1 exponent
    (if negative then -(n : Int) else (n : Int)) == i * d

/-- Whether two numbers are equal: no number equals `nan`, and the two zeros are equal. -/
def equals : Binary64 → Binary64 → Bool
  | finite s m e, finite s' m' e' => (m == 0 && m' == 0) || (s == s' && m == m' && e == e')
  | infinite s, infinite s' => s == s'
  | _, _ => false

def less : Binary64 → Binary64 → Bool
  | nan, _ => false
  | _, nan => false
  | infinite s, infinite s' => s && !s'
  | infinite s, finite _ _ _ => s
  | finite _ _ _, infinite s' => !s'
  | finite s m e, finite s' m' e' =>
    let (n, d) := scale m 1 e
    let (n', d') := scale m' 1 e'
    let signed (negative : Bool) (n : Nat) : Int := if negative then -(n : Int) else n
    signed s n * d' < signed s' n' * d

def isZero : Binary64 → Bool
  | finite _ m _ => m == 0
  | _ => false

end Binary64

end CommandShell
