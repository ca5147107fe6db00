import Shakedown.Text.Punycode
import Shakedown.Text.Utf8
import Shakedown.Url.Domain.Composition
import Shakedown.Url.Domain.Direction
import Shakedown.Url.Domain.Folding
import Shakedown.Url.Domain.Joining

/-!
Host names in the form that is sent: lower case and ASCII.

A name is folded and composed; its labels stand between dots. A label outside ASCII is sent as
`xn--` and its Punycode form. One that comes in that form is read first, must then hold something
outside ASCII, and is sent as it came.
-/

namespace Shakedown.Url.Domain

open Text

/-- The ASCII characters that no host name may hold. -/
def isForbidden (c : Char) : Bool :=
  c.toNat ≤ 0x20 || c.toNat = 0x7F || "%#/:<>?@[\\]^|".toList.contains c

def isAscii (c : Char) : Bool := c.toNat < 0x80

def codedMark : List Char := "xn--".toList

/-- What a label of a folded name shows. -/
def readLabel? (label : List Char) : Option (List Char) :=
  if codedMark.isPrefixOf label then
    match Punycode.decode? (label.drop codedMark.length) with
    | some shown =>
      if !shown.all isAscii && shown.all isSettled && composed shown = shown
        && !codedMark.isPrefixOf shown
      then some shown else none
    | none => none
  else some label

/-- The form in which a label is sent. -/
def writeLabel (shown : List Char) : List Char :=
  if shown.all isAscii then shown else codedMark ++ Punycode.encode shown

/-- Whether a label can be shown by itself. -/
def isPresentable (shown : List Char) : Bool :=
  !shown.head?.any isMark && joinersShow [] shown

/-- The form to send of a name given by its bytes, unless it has none. -/
def toAscii? (bytes : List UInt8) : Option (List Char) := do
  let typed ← Utf8.decode? bytes
  let name := composed (← foldAll? typed)
  let labels ← (splitBy (· == '.') name).mapM readLabel?
  if !name.any isForbidden && labels.all isPresentable && isOriented labels then
    some (['.'].intercalate (labels.map writeLabel))
  else none

end Shakedown.Url.Domain
