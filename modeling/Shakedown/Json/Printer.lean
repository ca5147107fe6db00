import Shakedown.Binary64.Shortest
import Shakedown.Json.Basic
import Shakedown.Text.Split

/-!
Compact JSON text.

Members follow their order in the object. A text escapes quotes, backslashes and control
characters and nothing else. A double has the fewest digits that read back; it is written with a
point from 10^-5 up to but not including 10^16 and with an exponent elsewhere.
-/

namespace Shakedown.Json

private def hexLower (n : Nat) : Char :=
  if n < 10 then Char.ofNat (48 + n) else Char.ofNat (87 + n)

/-- How one character stands inside quotes. -/
def escapeChar (c : Char) : List Char :=
  match c with
  | '"' => ['\\', '"']
  | '\\' => ['\\', '\\']
  | '\n' => ['\\', 'n']
  | '\r' => ['\\', 'r']
  | '\t' => ['\\', 't']
  | '\x08' => ['\\', 'b']
  | '\x0c' => ['\\', 'f']
  | c =>
    if c.toNat < 32 then
      ['\\', 'u', '0', '0', hexLower (c.toNat / 16), hexLower (c.toNat % 16)]
    else [c]

def quote (s : String) : String :=
  String.ofList ('"' :: s.toList.flatMap escapeChar ++ ['"'])

/-- The decimal exponents that are written with a point: from the first up to the second. -/
structure PointRange where
  least : Int
  beyond : Int

/-- Exponents -5 to 15 are written with a point. -/
def plainRange : PointRange := ⟨-5, 16⟩

/-- A decimal with a point, or with an exponent and its sign. -/
def decimalText (d : Binary64.Decimal) : String :=
  let digits := Nat.toDigits 10 d.digits
  let count := digits.length
  let scientific : Int := d.exponent + count - 1
  if plainRange.least ≤ scientific && scientific < plainRange.beyond then
    if 0 ≤ d.exponent then
      String.ofList (digits ++ List.replicate d.exponent.toNat '0' ++ ['.', '0'])
    else if 0 ≤ scientific then
      let whole := scientific.toNat + 1
      String.ofList (digits.take whole ++ '.' :: digits.drop whole)
    else
      String.ofList ('0' :: '.' :: List.replicate (-scientific - 1).toNat '0' ++ digits)
  else
    let fraction := if count = 1 then [] else '.' :: digits.drop 1
    String.ofList (digits.take 1 ++ fraction) ++
      (if scientific < 0 then "e-" else "e+") ++ toString scientific.natAbs

def Number.text : Number → String
  | .integer i _ => toString i
  | .double x => (if x.negative then "-" else "") ++ decimalText x.shortest

mutual

def text : Json → String
  | .null => "null"
  | .bool true => "true"
  | .bool false => "false"
  | .number n => n.text
  | .string s => quote s
  | .list items => "[" ++ Text.joinWith "," (itemTexts items) ++ "]"
  | .object members => "\x7b" ++ Text.joinWith "," (memberTexts members) ++ "\x7d"

def itemTexts : List Json → List String
  | [] => []
  | item :: rest => text item :: itemTexts rest

def memberTexts : List (String × Json) → List String
  | [] => []
  | (name, value) :: rest => (quote name ++ ":" ++ text value) :: memberTexts rest

end

example : quote "a\"\n\x1f" = "\"a\\\"\\n\\u001f\"" := by decide
example : decimalText ⟨1, -5⟩ = "0.00001" ∧ decimalText ⟨1, 15⟩ = "1000000000000000.0" ∧
    decimalText ⟨15, 299⟩ = "1.5e+300" ∧ decimalText ⟨5, -324⟩ = "5e-324" := by decide

end Shakedown.Json
