import Shakedown.Json.Number
import Shakedown.Json.Problem

/-!
Numbers as a JSON document spells them.

Digits are taken into a significand of 64 bits as long as it holds them; further ones only move the
decimal point. A number without point and exponent is an integer if 64 bits hold it and a double
otherwise; minus zero is a double.
-/

namespace Shakedown.Json

def isDigit (c : Char) : Bool := 48 ≤ c.toNat && c.toNat ≤ 57

def digitValue (c : Char) : Nat := c.toNat - 48

/-- A number read so far, with how many characters it spans. -/
structure Spelled where
  number : Number
  width : Nat

/-- Digits taken into a significand while 64 bits hold it, and how many they were. -/
def takeDigits : (significand : Nat) → List Char → Nat × Nat
  | significand, [] => (significand, 0)
  | significand, c :: cs =>
    let next := significand * 10 + digitValue c
    if next < UInt64.size then
      let r := takeDigits next cs
      (r.1, r.2 + 1)
    else (significand, 0)

/-- The characters of an exponent's digits up to the one that takes it past 31 bits, if any. -/
def exponentValue : (value : Nat) → List Char → Nat ⊕ List Char
  | value, [] => .inl value
  | value, c :: cs =>
    let next := value * 10 + digitValue c
    if next < 0x80000000 then exponentValue next cs else .inr cs

/-- Keeps an exponent within 32 bits with a sign. -/
def clampExponent (e : Int) : Int := max (-0x80000000) (min e 0x7FFFFFFF)

/-- The double of a significand and an exponent, or the failure of one that is too large. -/
def double? (negative : Bool) (significand : Nat) (exponent : Int) (unread : Nat) :
    Except Failure Number :=
  match Binary64.ofDecimal? negative significand exponent with
  | some x => .ok (.double x)
  | none => .error ⟨.numberTooLarge, unread⟩

/-- Reads an exponent after its letter; `left` counts the bytes from here on. -/
def readExponent (negative : Bool) (significand : Nat) (start : Int) (left width : Nat)
    (cs : List Char) : Except Failure Spelled :=
  let signed : Bool := match cs with
    | '+' :: _ => true
    | '-' :: _ => true
    | _ => false
  let down : Bool := cs.head? = some '-'
  let rest := if signed then cs.drop 1 else cs
  let left := if signed then left - 1 else left
  let width := if signed then width + 1 else width
  let digits := rest.takeWhile isDigit
  let unread := left - digits.length
  if digits = [] then
    .error (if rest = [] then ⟨.endInValue, 0⟩ else ⟨.badNumber, left - 1⟩)
  else match exponentValue 0 digits with
    | .inl e => do
      let n ← double? negative significand
        (clampExponent (if down then start - e else start + e)) unread
      pure ⟨n, width + digits.length⟩
    | .inr others =>
      if significand ≠ 0 && !down then .error ⟨.numberTooLarge, unread + others.length⟩
      else .ok ⟨.double (Binary64.zero negative), width + digits.length⟩

/-- Reads an exponent if there is one. -/
def readScale (negative : Bool) (significand : Nat) (start : Int) (left width : Nat)
    (cs : List Char) : Except Failure Spelled :=
  match cs with
  | c :: rest =>
    if c = 'e' ∨ c = 'E' then readExponent negative significand start (left - 1) (width + 1) rest
    else do pure ⟨← double? negative significand start left, width⟩
  | [] => do pure ⟨← double? negative significand start left, width⟩

/-- Reads the digits after a point. -/
def readFraction (negative : Bool) (significand : Nat) (start : Int) (left width : Nat)
    (cs : List Char) : Except Failure Spelled :=
  let digits := cs.takeWhile isDigit
  let rest := cs.dropWhile isDigit
  if digits = [] then
    .error (if rest = [] then ⟨.endInValue, 0⟩ else ⟨.badNumber, left - 1⟩)
  else
    let taken := takeDigits significand digits
    readScale negative taken.1 (start - taken.2) (left - digits.length) (width + digits.length) rest

/-- Reads a number after its minus sign, if it had one. -/
def readMagnitude (negative : Bool) (left width : Nat) (cs : List Char) :
    Except Failure Spelled :=
  let digits := cs.takeWhile isDigit
  let rest := cs.dropWhile isDigit
  match digits with
  | [] => .error (if rest = [] then ⟨.endInValue, 0⟩ else ⟨.badNumber, left - 1⟩)
  | '0' :: _ :: _ => .error ⟨.badNumber, left - 2⟩
  | _ =>
    let taken := takeDigits 0 digits
    let dropped : Int := digits.length - taken.2
    let left := left - digits.length
    let width := width + digits.length
    match rest with
    | '.' :: fraction => readFraction negative taken.1 dropped (left - 1) (width + 1) fraction
    | _ =>
      let scaled := rest.head? = some 'e' || rest.head? = some 'E' || dropped ≠ 0
      let value : Int := if negative then -taken.1 else taken.1
      match Number.ofInt? value with
      | some n =>
        if scaled || (negative && value = 0) then
          readScale negative taken.1 dropped left width rest
        else .ok ⟨n, width⟩
      | none => readScale negative taken.1 dropped left width rest

/-- Reads a number; `left` counts the bytes from its first character on. -/
def readNumber (left : Nat) : List Char → Except Failure Spelled
  | '-' :: rest => readMagnitude true (left - 1) 1 rest
  | cs => readMagnitude false left 0 cs

private def textOf (s : String) : Option String :=
  (readNumber s.length s.toList).toOption.map fun r => toString r.width

example : textOf "-12.5e3," = some "7" := by decide +kernel
example : textOf "01" = none ∧ textOf "1." = none ∧ textOf "1e400" = none := by decide +kernel

end Shakedown.Json
