import Shakedown.Text.Split
import Shakedown.Url.Ipv4

/-!
IPv6 addresses: eight pieces of sixteen bits, of which one run of zeros may be left out and the
last two may be written as an IPv4 address.
-/

namespace Shakedown.Url.Ipv6

/-- Up to `most` hexadecimal digits: how many, their value and what follows them. -/
def takeHex : (most count value : Nat) → List Char → Nat × Nat × List Char
  | most + 1, count, value, c :: cs =>
    match Ipv4.digit? 16 c with
    | some d => takeHex most (count + 1) (value * 16 + d) cs
    | none => (count, value, c :: cs)
  | _, count, value, cs => (count, value, cs)

/-- A decimal byte without leading zeros. -/
def byte? : List Char → Option Nat
  | [] => none
  | '0' :: _ :: _ => none
  | cs => (Ipv4.number? 10 cs).filter (· ≤ 255)

/-- The two pieces of an address in dotted form. -/
def dotted? (cs : List Char) : Option (List Nat) :=
  match (Text.splitBy (· == '.') cs).mapM byte? with
  | some [a, b, c, d] => some [a * 256 + b, c * 256 + d]
  | _ => none

/-- The pieces read, newest first, and how many of them stand before the zeros left out. -/
structure Pieces where
  done : List Nat
  gap : Option Nat

/-- Reads pieces while there is room for them. -/
def readPieces : (room : Nat) → Pieces → List Char → Option Pieces
  | _, p, [] => some p
  | 0, _, _ :: _ => none
  | room + 1, p, ':' :: rest =>
    if p.gap.isSome then none
    else readPieces room ⟨0 :: p.done, some (p.done.length + 1)⟩ rest
  | room + 1, p, cs =>
    match takeHex 4 0 0 cs with
    | (_, value, []) => some ⟨value :: p.done, p.gap⟩
    | (count, value, c :: rest) =>
      if c = '.' then
        if count = 0 || room = 0 then none
        else (dotted? cs).map fun two => ⟨two.reverse ++ p.done, p.gap⟩
      else if c = ':' && rest ≠ [] then readPieces room ⟨value :: p.done, p.gap⟩ rest
      else none

/-- All eight pieces, with the zeros that were left out. -/
def fill? (p : Pieces) : Option (List Nat) :=
  let all := p.done.reverse
  match p.gap with
  | some g => some (all.take g ++ List.replicate (8 - all.length) 0 ++ all.drop g)
  | none => if all.length = 8 then some all else none

def ofPieces (pieces : List Nat) : BitVec 128 :=
  BitVec.ofNat 128 (pieces.foldl (fun n p => n * 65536 + p) 0)

def read? (cs : List Char) : Option (BitVec 128) :=
  let found := match cs with
    | [] => none
    | [_] => none
    | ':' :: ':' :: rest => readPieces 7 ⟨[0], some 1⟩ rest
    | ':' :: _ => none
    | _ => readPieces 8 ⟨[], none⟩ cs
  (found.bind fill?).map ofPieces

def pieces (a : BitVec 128) : List Nat :=
  (List.range 8).map fun i => (a.toNat >>> (16 * (7 - i))) % 65536

/-- How many zeros stand from a place on. -/
def zerosAt (ps : List Nat) (i : Nat) : Nat := ((ps.drop i).takeWhile (· = 0)).length

/-- The first of the longest runs of zeros, as its place and length. -/
def longestZeros (ps : List Nat) : Nat × Nat :=
  (List.range ps.length).foldl
    (fun best i => if best.2 < zerosAt ps i then (i, zerosAt ps i) else best) (0, 0)

def joinPieces (ps : List Nat) : String :=
  Text.joinWith ":" (ps.map fun p => String.ofList (Nat.toDigits 16 p))

/-- The shortest spelling: a run of two or more zeros is left out. -/
def text (a : BitVec 128) : String :=
  let ps := pieces a
  let run := longestZeros ps
  if run.2 < 2 then joinPieces ps
  else joinPieces (ps.take run.1) ++ "::" ++ joinPieces (ps.drop (run.1 + run.2))

example : (read? "::ffff:1.2.3.4".toList).map text = some "::ffff:102:304" := by decide
example : (read? "0:0:1:0:0:0:0:1".toList).map text = some "0:0:1::1" := by decide
example : read? "1::2::3".toList = none ∧ read? "1:2".toList = none := by decide

end Shakedown.Url.Ipv6
