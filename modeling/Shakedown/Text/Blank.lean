/-!
White space and letter case of text typed by an operator.

`trim` takes every character with the Unicode property White_Space off both ends. Letters compare
without case in the ASCII range only, so a letter outside it never equals an ASCII one.
-/

namespace Shakedown.Text

/-- The characters with the Unicode property White_Space. -/
def isBlank (c : Char) : Bool :=
  let n := c.toNat
  (9 ≤ n && n ≤ 13) || n == 0x20 || n == 0x85 || n == 0xA0 || n == 0x1680
    || (0x2000 ≤ n && n ≤ 0x200A) || n == 0x2028 || n == 0x2029 || n == 0x202F
    || n == 0x205F || n == 0x3000

def trimStart (cs : List Char) : List Char := cs.dropWhile isBlank

def trimEnd (cs : List Char) : List Char := (cs.reverse.dropWhile isBlank).reverse

def trim (cs : List Char) : List Char := trimEnd (trimStart cs)

/-- Whether `cs` spells `word`, which is in lower case, in some ASCII case. -/
def spells (word cs : List Char) : Bool := cs.map Char.toLower == word

theorem spells_iff {word cs : List Char} : spells word cs = true ↔ cs.map Char.toLower = word := by
  rw [spells, beq_iff_eq]

theorem toList_toLower (s : String) : s.toLower.toList = s.toList.map Char.toLower :=
  String.toList_map

example : isBlank '\u2003' && isBlank '\t' && !isBlank '\u200b' := by decide
example : spells "http://".toList "hTtP://".toList := by decide

end Shakedown.Text
