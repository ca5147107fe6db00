import Shakedown.Fault
import Shakedown.Text.Utf8

/-!
Files by name, and what goes wrong when one is read.
-/

namespace Shakedown

inductive File where
  | missing
  | folder
  | content (bytes : List UInt8)

abbrev Files := String → File

namespace File

def missingText : String := "No such file or directory (os error 2)"

def folderText : String := "Is a directory (os error 21)"

/-- The text of a file, or why it has none. -/
def readText : File → Except String String
  | .missing => .error missingText
  | .folder => .error folderText
  | .content bytes =>
    match Text.Utf8.decode? bytes with
    | some cs => .ok (String.ofList cs)
    | none => .error "stream did not contain valid UTF-8"

/-- The bytes of a file. A folder can be opened, but its bytes never come. -/
def openBytes : File → Except Fault (Option (List UInt8))
  | .missing => .error (.io missingText)
  | .folder => .ok none
  | .content bytes => .ok (some bytes)

end File
end Shakedown
