import Shakedown.Binary64

/-!
The shortest decimal that reads back as a given binary64 number.

A decimal reads back when it lies in the interval of the reals that round to the number, whose
ends belong to it when the ordinal is even. For 1, 2, ... 17 digits the two neighbours of the value
on that decimal grid are tried: the first grid with a hit wins, and of two hits the nearer, or the
even one if both are as near.
-/

namespace Shakedown.Binary64

/-- A decimal `digits · 10 ^ exponent`. -/
structure Decimal where
  digits : Nat
  exponent : Int
deriving DecidableEq, Repr

/-- How many decimal digits a number has. -/
def digitCount (n : Nat) : Nat := (Nat.toDigits 10 n).length

/-- The largest `e` such that `10 ^ e` is at most a positive quotient. -/
def decimalExponent (num den : Nat) : Int :=
  if den ≤ num then digitCount (num / den) - 1
  else -(digitCount ((den + num - 1) / num - 1) : Int)

/-- A digit string for the number with this ordinal on the grid of multiples of `10 ^ e`. -/
def onGrid? (ordinal : Nat) (e : Int) : Option Nat :=
  let up := Nat.pow 10 (-e).toNat
  let grid := 2 * unit * Nat.pow 10 e.toNat
  let value := 2 * magnitudeAt ordinal * up
  let low := (magnitudeAt (ordinal - 1) + magnitudeAt ordinal) * up
  let high := (magnitudeAt ordinal + magnitudeAt (ordinal + 1)) * up
  let reads (d : Nat) : Bool :=
    if ordinal % 2 = 0 then low ≤ d * grid && d * grid ≤ high
    else low < d * grid && d * grid < high
  let below := value / grid
  let nearest := roundDiv value grid
  if reads below && (!reads (below + 1) || nearest = below) then some below
  else if reads (below + 1) then some (below + 1)
  else none

/-- The point of the grid nearest to the number with this ordinal. -/
def nearestOnGrid (ordinal : Nat) (e : Int) : Nat :=
  roundDiv (magnitudeAt ordinal * Nat.pow 10 (-e).toNat) (unit * Nat.pow 10 e.toNat)

/-- Tries the grids from `places` digits on, `more` of them, and rounds to the one after them if
none has a hit. -/
def searchGrids (ordinal : Nat) (top : Int) : (more places : Nat) → Decimal
  | 0, places => ⟨nearestOnGrid ordinal (top - places), top - places⟩
  | more + 1, places =>
    let e := top - (places - 1 : Nat)
    match onGrid? ordinal e with
    | some d => ⟨d, e⟩
    | none => searchGrids ordinal top more (places + 1)

/-- Takes zeros off the end of the digits. -/
def dropZeros : (fuel : Nat) → Decimal → Decimal
  | 0, d => d
  | fuel + 1, d =>
    if d.digits ≠ 0 ∧ d.digits % 10 = 0 then dropZeros fuel ⟨d.digits / 10, d.exponent + 1⟩ else d

/-- The shortest decimal for the magnitude of a number. -/
def shortest (x : Binary64) : Decimal :=
  if x.ordinal = 0 then ⟨0, 0⟩
  else
    let top := decimalExponent x.magnitude unit
    dropZeros 17 (searchGrids x.ordinal top 17 1)

example : (ofDecimal? false 1 (-1)).map shortest = some ⟨1, -1⟩ := by decide +kernel
example : (ofDecimal? false 5 (-324)).map shortest = some ⟨5, -324⟩ := by decide +kernel
example : (nearest? false 417235691514196875 100000).map shortest =
    some ⟨41723569151419688, -4⟩ := by decide +kernel
example : (largest false).shortest = ⟨17976931348623157, 292⟩ := by decide +kernel

end Shakedown.Binary64
