/-!
Text in ASCII letters, digits and hyphens (RFC 3492).

The ASCII characters come first; after the last hyphen, the places of all others follow in the
order of their code points, each as the distance from the one before. A distance is written in
base 36 with the least digit first, and a digit below its threshold is the last. The thresholds
adapt to the size of the distances met so far.
-/

namespace Shakedown.Text.Punycode

def digit (d : Nat) : Char := if d < 26 then Char.ofNat (97 + d) else Char.ofNat (22 + d)

def digitValue? (c : Char) : Option Nat :=
  if 'a' ≤ c ∧ c ≤ 'z' then some (c.toNat - 97)
  else if 'A' ≤ c ∧ c ≤ 'Z' then some (c.toNat - 65)
  else if '0' ≤ c ∧ c ≤ '9' then some (c.toNat - 22)
  else none

theorem digitValue?_digit {d : Nat} (h : d < 36) : digitValue? (digit d) = some d := by
  have all : ∀ e ∈ List.range 36, digitValue? (digit e) = some e := by decide
  exact all d (List.mem_range.2 h)

/-- The threshold of the digit whose position is a multiple of 36. -/
def threshold (bias position : Nat) : Nat :=
  if position ≤ bias then 1 else if bias + 26 ≤ position then 26 else position - bias

theorem threshold_pos (bias position : Nat) : 0 < threshold bias position := by
  unfold threshold
  split
  · omega
  · split <;> omega

theorem threshold_le (bias position : Nat) : threshold bias position ≤ 26 := by
  unfold threshold
  split
  · omega
  · split <;> omega

/-- The bias for a distance that is typical from here on. -/
def biasFor (typical : Nat) : Nat :=
  if typical ≤ 455 then 36 * typical / (typical + 38) else 36 + biasFor (typical / 35)
termination_by typical
decreasing_by omega

/-- The bias after a distance was met, `size` characters being placed with it. -/
def biasAfter (distance size : Nat) (isFirst : Bool) : Nat :=
  let part := if isFirst then distance / 700 else distance / 2
  biasFor (part + part / size)

/-! Writing. -/

/-- The digits of a number. -/
def digits (bias position n : Nat) : List Char :=
  let t := threshold bias position
  if n < t then [digit n]
  else digit (t + (n - t) % (36 - t)) :: digits bias (position + 36) ((n - t) / (36 - t))
termination_by n
decreasing_by
  have := threshold_pos bias position
  have := Nat.div_le_self (n - threshold bias position) (36 - threshold bias position)
  omega

/-- How far the writing is: the distance walked since the last character was placed. -/
structure Writing where
  text : List Char
  distance : Nat
  bias : Nat
  placed : Nat
  isFirst : Bool

/-- Passes one character while the places of the character `c` are written. -/
def Writing.pass (c : Char) (w : Writing) (d : Char) : Writing :=
  if d < c then { w with distance := w.distance + 1 }
  else if d = c then
    ⟨w.text ++ digits w.bias 36 w.distance, 0,
      biasAfter w.distance (w.placed + 1) w.isFirst, w.placed + 1, false⟩
  else w

/-- Writes the places of the characters `rest`, which stand in order of code points; `n` is the
first code point not written yet. -/
def places (cs : List Char) : List Char → Nat → Writing → List Char
  | [], _, w => w.text
  | c :: rest, n, w =>
    let here := { w with distance := w.distance + (c.toNat - n) * (w.placed + 1) }
    let passed := cs.foldl (Writing.pass c) here
    places cs rest (c.toNat + 1) { passed with distance := passed.distance + 1 }

def isBasic (c : Char) : Bool := c.toNat < 0x80

def encode (cs : List Char) : List Char :=
  let basic := cs.filter isBasic
  let others := ((cs.filter (!isBasic ·)).mergeSort (fun a b => a ≤ b)).eraseDups
  basic ++ (if basic = [] then [] else ['-']) ++
    places cs others 0x80 ⟨[], 0, 72, basic.length, true⟩

/-! Reading. -/

/-- How far the reading is: the text so far, the code point and the place that the next character
counts from, and the number whose digits are being read. -/
structure Reading where
  text : List Char
  codePoint : Nat
  start : Nat
  bias : Nat
  index : Nat
  weight : Nat
  position : Nat

def Reading.ofBasic (basic : List Char) : Reading := ⟨basic, 0x80, 0, 72, 0, 1, 36⟩

/-- Puts a character where the number just read says. -/
def Reading.place (r : Reading) : Option Reading :=
  let size := r.text.length + 1
  let codePoint := r.codePoint + r.index / size
  let index := r.index % size
  if codePoint.isValidChar then
    some ⟨r.text.take index ++ Char.ofNat codePoint :: r.text.drop index, codePoint, index + 1,
      biasAfter (r.index - r.start) size (r.start == 0), index + 1, 1, 36⟩
  else none

def Reading.step (r : Reading) (c : Char) : Option Reading :=
  match digitValue? c with
  | none => none
  | some d =>
    let t := threshold r.bias r.position
    let read := { r with index := r.index + d * r.weight }
    if d < t then read.place
    else some { read with weight := r.weight * (36 - t), position := r.position + 36 }

/-- Refuses a character that is no digit, a number without its last digit and a number that leads
to no character. -/
def decode? (cs : List Char) : Option (List Char) :=
  let tail := (cs.reverse.takeWhile (· ≠ '-')).reverse
  let basic := cs.take (cs.length - tail.length - 1)
  let numbers := if basic = [] then cs else tail
  if basic.all isBasic then
    match numbers.foldlM Reading.step (Reading.ofBasic basic) with
    | some r => if r.position = 36 then some r.text else none
    | none => none
  else none

example : encode "bücher".toList = "bcher-kva".toList := by decide +kernel
example : decode? "bcher-kva".toList = some "bücher".toList := by decide +kernel
example : decode? "bcher-k".toList = none := by decide +kernel

end Shakedown.Text.Punycode
