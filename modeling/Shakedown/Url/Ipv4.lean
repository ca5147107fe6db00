import Shakedown.Text.Split

/-!
IPv4 addresses as a browser reads them: one to four numbers, each decimal, octal after a zero or
hexadecimal after `0x`, the last one filling all the bytes that are left.
-/

namespace Shakedown.Url.Ipv4

/-- The value of a digit of a base up to sixteen. -/
def digit? (base : Nat) (c : Char) : Option Nat :=
  let n := c.toNat
  let d :=
    if 48 ≤ n && n ≤ 57 then n - 48
    else if 65 ≤ n && n ≤ 70 then n - 55
    else if 97 ≤ n && n ≤ 102 then n - 87
    else 16
  if d < base then some d else none

/-- The number that digits of a base spell; no digits spell zero. -/
def number? (base : Nat) (cs : List Char) : Option Nat :=
  (cs.mapM (digit? base)).map (·.foldl (fun n d => n * base + d) 0)

/-- The value of one part of an address. -/
def part? : List Char → Option Nat
  | [] => none
  | '0' :: 'x' :: rest => number? 16 rest
  | '0' :: 'X' :: rest => number? 16 rest
  | '0' :: c :: rest => number? 8 (c :: rest)
  | cs => number? 10 cs

/-- The parts between dots; a dot at the end adds none. -/
def parts (cs : List Char) : List (List Char) :=
  let all := Text.splitBy (· == '.') cs
  if all.getLast? = some [] then all.dropLast else all

/-- Whether a name has to be read as an address: its last part is a number. -/
def looksLike (cs : List Char) : Bool :=
  match (parts cs).getLast? with
  | none => false
  | some [] => false
  | some last => last.all Char.isDigit || (part? last).isSome

/-- The address with these parts: each but the last is one byte. -/
def ofParts? (numbers : List Nat) : Option (BitVec 32) :=
  match numbers.reverse with
  | [] => none
  | last :: firsts =>
    if 3 < firsts.length then none
    else if firsts.all (· ≤ 255) && last < Nat.pow 256 (4 - firsts.length) then
      some (BitVec.ofNat 32
        (firsts.reverse.foldl (fun n b => n * 256 + b) 0 * Nat.pow 256 (4 - firsts.length) + last))
    else none

def read? (cs : List Char) : Option (BitVec 32) :=
  ((parts cs).mapM part?).bind ofParts?

def text (a : BitVec 32) : String :=
  let byte (i : Nat) := toString ((a.toNat >>> (8 * i)) % 256)
  byte 3 ++ "." ++ byte 2 ++ "." ++ byte 1 ++ "." ++ byte 0

example : (read? "127.1".toList).map text = some "127.0.0.1" := by decide
example : (read? "0x7f.0.0.01".toList).map text = some "127.0.0.1" := by decide
example : read? "256.1.1.1".toList = none ∧ read? "1.2.3.08".toList = none := by decide

end Shakedown.Url.Ipv4
