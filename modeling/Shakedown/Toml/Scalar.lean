import Shakedown.Binary64.Shortest
import Shakedown.Toml.Quoted

/-!
Numbers, dates and times of a TOML document.
-/

namespace Shakedown.Toml

def isDigit (c : Char) : Bool := '0' ≤ c && c ≤ '9'

/-- Further digits; an underscore may stand before each. -/
def moreDigits (accepts : Char → Bool) : List Char → Option ((List Char) × List Char)
  | '_' :: c :: rest =>
    if accepts c then (moreDigits accepts rest).map fun r => (c :: r.1, r.2) else none
  | ['_'] => none
  | c :: rest =>
    if accepts c then (moreDigits accepts rest).map fun r => (c :: r.1, r.2)
    else some ([], c :: rest)
  | [] => some ([], [])

/-- One digit and further ones. -/
def readDigits (accepts : Char → Bool) : List Char → Option ((List Char) × List Char)
  | c :: rest =>
    if accepts c then (moreDigits accepts rest).map fun r => (c :: r.1, r.2) else none
  | [] => none

def valueOf (base : Nat) (digits : List Char) : Nat :=
  digits.foldl (fun n c => n * base + (Text.Percent.hexValue c).getD 0) 0

/-- An integer of 64 bits with a sign. -/
def integer? (i : Int) : Option Toml :=
  if -0x8000000000000000 ≤ i ∧ i < 0x8000000000000000 then some (.integer i) else none

/-- Reads an integer in a base other than ten after its mark. -/
def readBased (base : Nat) (cs : List Char) : Option (Toml × List Char) := do
  let accepts (c : Char) : Bool := (Text.Percent.hexValue c).any (· < base)
  let (digits, rest) ← readDigits accepts cs
  some (← integer? (valueOf base digits), rest)

/-- A sign, and what follows it. -/
def readSign : List Char → Bool × List Char
  | '-' :: rest => (true, rest)
  | '+' :: rest => (false, rest)
  | cs => (false, cs)

/-- The digits of a decimal integer; a zero stands alone. -/
def readDecimal : List Char → Option ((List Char) × List Char)
  | '0' :: rest => some (['0'], rest)
  | cs => readDigits isDigit cs

/-- Whether a decimal is too large for a binary64 number. -/
def isInfinite (digits : Nat) (exponent : Int) : Bool :=
  let size := Binary64.digitCount digits + exponent
  if digits = 0 || size < 300 then false
  else if 320 < size then true
  else (Binary64.nearest? false (digits * Nat.pow 10 exponent.toNat)
    (Nat.pow 10 (-exponent).toNat)).isNone

/-- Reads the exponent of a number if there is one. -/
def readExponent (cs : List Char) : Option (Int × List Char) :=
  match cs with
  | c :: rest =>
    if c = 'e' || c = 'E' then do
      let (negative, rest) := readSign rest
      let (digits, rest) ← readDigits isDigit rest
      let e : Int := valueOf 10 digits
      some (if negative then -e else e, rest)
    else some (0, cs)
  | [] => some (0, [])

/-- Reads what follows the integer digits of a number with a point or an exponent. -/
def readFloat (negative : Bool) (whole : List Char) (cs : List Char) :
    Option (Toml × List Char) := do
  let (fraction, rest) ←
    match cs with
    | '.' :: rest => readDigits isDigit rest
    | _ => some ([], cs)
  let (e, rest) ← readExponent rest
  if !negative && isInfinite (valueOf 10 (whole ++ fraction)) (e - fraction.length) then none
  else some (.float, rest)

def readNumber (cs : List Char) : Option (Toml × List Char) := do
  let (negative, unsigned) := readSign cs
  match unsigned with
  | 'i' :: 'n' :: 'f' :: rest => some (.float, rest)
  | 'n' :: 'a' :: 'n' :: rest => some (.float, rest)
  | _ =>
    let (digits, rest) ← readDecimal unsigned
    if rest.head?.any fun c => c = '.' || c = 'e' || c = 'E' then readFloat negative digits rest
    else
      let n : Int := valueOf 10 digits
      some (← integer? (if negative then -n else n), rest)

/-- A number of two digits within bounds. -/
def readTwo (low high : Nat) : List Char → Option (Nat × List Char)
  | a :: b :: rest =>
    let n := valueOf 10 [a, b]
    if isDigit a && isDigit b && low ≤ n && n ≤ high then some (n, rest) else none
  | _ => none

def expect (c : Char) : List Char → Option (List Char)
  | d :: rest => if c = d then some rest else none
  | [] => none

/-- Digits of a second after a point, if there is one. -/
def skipFraction : List Char → Option (List Char)
  | '.' :: rest =>
    if rest.head?.any isDigit then some (rest.dropWhile isDigit) else some ('.' :: rest)
  | cs => some cs

/-- What follows a time of day. -/
def time? (cs : List Char) : Option (List Char) := do
  let (_, rest) ← readTwo 0 23 cs
  let (_, rest) ← readTwo 0 59 (← expect ':' rest)
  let (_, rest) ← readTwo 0 60 (← expect ':' rest)
  skipFraction rest

/-- What follows the offset of a time from universal time, if there is one. -/
def offset? (cs : List Char) : Option (List Char) :=
  match cs with
  | c :: rest =>
    if c = 'Z' || c = 'z' then some rest
    else if c = '+' || c = '-' then do
      let (_, rest) ← readTwo 0 23 rest
      let (_, rest) ← readTwo 0 59 (← expect ':' rest)
      some rest
    else some cs
  | [] => some []

def daysIn (year month : Nat) : Nat :=
  if month = 2 then
    if year % 4 = 0 && (year % 100 ≠ 0 || year % 400 = 0) then 29 else 28
  else if [4, 6, 9, 11].contains month then 30
  else 31

/-- What follows a date. -/
def date? (cs : List Char) : Option (List Char) := do
  let year := valueOf 10 (cs.take 4)
  let (month, rest) ← readTwo 1 12 (cs.drop 5)
  let (day, rest) ← readTwo 1 31 (← expect '-' rest)
  if day ≤ daysIn year month then some rest else none

/-- Whether a time of day opens here, by its first colon. -/
def opensTime (cs : List Char) : Bool :=
  match readTwo 0 23 cs with
  | some (_, ':' :: _) => true
  | _ => false

/-- What follows a date with a time of day after it, if there is one. -/
def dateTime? (cs : List Char) : Option (List Char) := do
  let rest ← date? cs
  match rest with
  | c :: after =>
    if (c = 'T' || c = 't' || c = ' ') && opensTime after then offset? (← time? after)
    else some rest
  | [] => some []

def opensDate (cs : List Char) : Bool :=
  (cs.take 4).length = 4 && (cs.take 4).all isDigit && (cs.drop 4).head? = some '-'

/-- Reads a number, a date or a time. -/
def readScalar (cs : List Char) : Option (Toml × List Char) :=
  if opensDate cs then (dateTime? cs).map (.moment, ·)
  else if opensTime cs then (time? cs).map (.moment, ·)
  else match cs with
    | '0' :: 'x' :: rest => readBased 16 rest
    | '0' :: 'o' :: rest => readBased 8 rest
    | '0' :: 'b' :: rest => readBased 2 rest
    | _ => readNumber cs

end Shakedown.Toml
