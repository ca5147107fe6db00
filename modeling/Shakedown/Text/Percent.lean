import Shakedown.Text.Utf8

/-!
Percent encoding.

`encode keep` leaves the characters that `keep` accepts and writes every other one as the `%XX`
forms of its UTF-8 bytes, with capital digits. `decode` gives the bytes that a text stands for; a
percent sign without two hexadecimal digits after it stands for itself.
-/

namespace Shakedown.Text.Percent

/-- The capital hexadecimal digit of a number below sixteen. -/
def hexDigit (n : Nat) : Char :=
  if n < 10 then Char.ofNat (48 + n) else Char.ofNat (55 + n)

/-- The value of a hexadecimal digit of either case. -/
def hexValue (c : Char) : Option Nat :=
  let n := c.toNat
  if 48 ≤ n && n ≤ 57 then some (n - 48)
  else if 65 ≤ n && n ≤ 70 then some (n - 55)
  else if 97 ≤ n && n ≤ 102 then some (n - 87)
  else none

def escape (b : UInt8) : List Char := ['%', hexDigit (b.toNat / 16), hexDigit (b.toNat % 16)]

def encodeChar (keep : Char → Bool) (c : Char) : List Char :=
  if keep c then [c] else (String.utf8EncodeChar c).flatMap escape

def encode (keep : Char → Bool) (cs : List Char) : List Char := cs.flatMap (encodeChar keep)

def decode : List Char → List UInt8
  | [] => []
  | '%' :: a :: b :: rest =>
    match hexValue a, hexValue b with
    | some x, some y => UInt8.ofNat (16 * x + y) :: decode rest
    | _, _ => 37 :: decode (a :: b :: rest)
  | c :: rest => String.utf8EncodeChar c ++ decode rest

/-- Printable ASCII, the only characters that some part of an address may hold unescaped. -/
def isGraphic (c : Char) : Bool := 0x20 ≤ c.toNat && c.toNat ≤ 0x7E

example : encode isGraphic "a é".toList = "a %C3%A9".toList := by decide
example : decode "%41%zz%e9".toList = [65, 37, 122, 122, 233] := by decide

end Shakedown.Text.Percent
