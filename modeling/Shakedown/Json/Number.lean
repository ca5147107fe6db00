import Shakedown.Binary64

/-!
Numbers of a JSON document: integers of 64 bits, with or without a sign, and binary64 numbers.

Two numbers agree when they are the same integer or the same number after rounding to binary64.
-/

namespace Shakedown.Json

inductive Number where
  | integer (value : Int)
      (inRange : -0x8000000000000000 ≤ value ∧ value < 0x10000000000000000)
  | double (value : Binary64)
deriving DecidableEq

namespace Number

/-- The integer, unless it needs more than 64 bits. -/
def ofInt? (i : Int) : Option Number :=
  if h : -0x8000000000000000 ≤ i ∧ i < 0x10000000000000000 then some (.integer i h) else none

def toBinary64 : Number → Binary64
  | .integer i _ => Binary64.ofInt i
  | .double x => x

/-- The value in units of 2^-1074, before any rounding. -/
def scaled : Number → Int
  | .integer i _ => i * Binary64.unit
  | .double x => x.scaled

/-- Equality of one kind of number: integers by value, doubles numerically. -/
def same : Number → Number → Bool
  | .integer i _, .integer j _ => i == j
  | .double x, .double y => x.sameValue y
  | _, _ => false

def agrees (a b : Number) : Bool := a.same b || a.toBinary64.sameValue b.toBinary64

end Number
end Shakedown.Json
