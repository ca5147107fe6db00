/-!
Finite binary64 numbers by their exact values.

The magnitudes are numbered from zero upwards, so a number is a sign and an ordinal. `magnitude`
is the exact value in units of 2^-1074, the smallest positive one, of which every finite binary64
number is a whole multiple. `nearest?` rounds a quotient of natural numbers to the nearest
magnitude, a half going to the even ordinal.
-/

namespace Shakedown

/-- How many ordinals there are from one power of two to the next. -/
def Binary64.groupSize : Nat := 0x10000000000000

structure Binary64 where
  negative : Bool
  ordinal : Nat
  finite : ordinal < 2047 * Binary64.groupSize
deriving DecidableEq

/-- The nearest whole number to a quotient, a half going to the even neighbour. -/
def roundDiv (num den : Nat) : Nat :=
  let q := num / den
  let r := num % den
  if den < 2 * r then q + 1
  else if 2 * r = den then q + q % 2
  else q

namespace Binary64

/-- One, in units of 2^-1074. -/
def unit : Nat := 1 <<< 1074

/-- The magnitude with a given ordinal, in units of 2^-1074. -/
def magnitudeAt (ordinal : Nat) : Nat :=
  let group := ordinal / groupSize
  if group = 0 then ordinal else (groupSize + ordinal % groupSize) <<< (group - 1)

def magnitude (x : Binary64) : Nat := magnitudeAt x.ordinal

/-- The exact value in units of 2^-1074. Both zeros have the value zero. -/
def scaled (x : Binary64) : Int := if x.negative then -x.magnitude else x.magnitude

/-- Numerical equality. -/
def sameValue (x y : Binary64) : Bool := x.scaled == y.scaled

/-- The ordinal of the magnitude nearest to a quotient; it may lie beyond the finite ones. -/
def nearestOrdinal (num den : Nat) : Nat :=
  let n := num * unit
  let shift := (n / den).log2 - 52
  shift * groupSize + roundDiv n (den <<< shift)

/-- The number nearest to a signed quotient, unless it rounds beyond the finite ones. -/
def nearest? (negative : Bool) (num den : Nat) : Option Binary64 :=
  let ordinal := nearestOrdinal num den
  if h : ordinal < 2047 * groupSize then some ⟨negative, ordinal, h⟩ else none

/-- The number of largest magnitude. -/
def largest (negative : Bool) : Binary64 := ⟨negative, 2047 * groupSize - 1, by decide⟩

def zero (negative : Bool) : Binary64 := ⟨negative, 0, by decide⟩

/-- The number nearest to an integer, which the largest one stands for if it is out of range. -/
def ofInt (i : Int) : Binary64 :=
  (nearest? (decide (i < 0)) i.natAbs 1).getD (largest (decide (i < 0)))

def mul? (x y : Binary64) : Option Binary64 :=
  nearest? (x.negative != y.negative) (x.magnitude * y.magnitude) (unit * unit)

def div? (x y : Binary64) : Option Binary64 :=
  nearest? (x.negative != y.negative) x.magnitude y.magnitude

/-- The sum of the magnitudes, rounded. -/
def addMagnitudes? (x y : Binary64) : Option Binary64 :=
  nearest? false (x.magnitude + y.magnitude) unit

/-- The exact value to a fixed number of decimal places, a half going to the even digit. -/
def toFixed (places : Nat) (x : Binary64) : String :=
  let scale := Nat.pow 10 places
  let n := roundDiv (x.magnitude * scale) unit
  let whole := toString (n / scale)
  let digits := (Nat.toDigits 10 (n % scale)).leftpad places '0'
  (if x.negative then "-" else "") ++ whole ++
    (if places = 0 then "" else "." ++ String.ofList digits)

/-- Reads `significand · 10 ^ exponent` in one rounded step, or in two below 10^-308: the
significand is rounded first, then multiplied or divided by a rounded power of ten. Nothing is
returned for a magnitude beyond the finite ones. -/
def ofDecimal? (negative : Bool) (significand : Nat) (exponent : Int) : Option Binary64 := do
  let x ← nearest? negative significand 1
  let power (k : Nat) : Option Binary64 := nearest? false (Nat.pow 10 k) 1
  let k := exponent.natAbs
  if 0 ≤ exponent then
    if k ≤ 308 then x.mul? (← power k)
    else if x.ordinal = 0 then some x
    else none
  else if k ≤ 308 then x.div? (← power k)
  else if k ≤ 616 then (← x.div? (← power 308)).div? (← power (k - 308))
  else some (zero negative)

example : (ofInt (1 <<< 53 + 1)).scaled = (1 <<< 53) * unit := by decide +kernel
example : (ofDecimal? false 1 (-1)).map ordinal = some 0x3FB999999999999A := by decide +kernel
example : ofDecimal? false 1 400 = none := by decide +kernel

end Binary64
end Shakedown
