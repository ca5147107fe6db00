import Shakedown.Text.Split

/-!
Ranges of code points, and lists of them as text: hexadecimal numbers, the two ends of a range
joined by a hyphen, one range after the other with a blank between. An entry assigns numbers to
a range.
-/

namespace Shakedown.Text

structure CodePoints where
  first : Nat
  last : Nat
deriving DecidableEq, Repr

namespace CodePoints

def contains (r : CodePoints) (n : Nat) : Bool := r.first ≤ n && n ≤ r.last

/-- The value of lower-case hexadecimal digits. -/
def readNumber (cs : List Char) : Nat :=
  cs.foldl (fun n c => n * 16 + (if c.toNat < 58 then c.toNat - 48 else c.toNat - 87)) 0

def read (cs : List Char) : CodePoints :=
  match splitBy (· == '-') cs with
  | [first, last] => ⟨readNumber first, readNumber last⟩
  | _ => ⟨readNumber cs, readNumber cs⟩

def readAll (text : String) : List CodePoints :=
  (splitBy (· == ' ') text.toList).map read

/-- Reads a range, an equals sign and numbers with dots between them. -/
def readEntry (cs : List Char) : CodePoints × List Nat :=
  (read (cs.takeWhile (· ≠ '=')),
    (splitBy (· == '.') ((cs.dropWhile (· ≠ '=')).drop 1)).map readNumber)

def readEntries (text : String) : List (CodePoints × List Nat) :=
  (splitBy (· == ' ') text.toList).map readEntry

example : readAll "a 1f-20" = [⟨10, 10⟩, ⟨31, 32⟩] := by decide
example : readEntries "df=73.73" = [(⟨223, 223⟩, [115, 115])] := by decide

end CodePoints
end Shakedown.Text
