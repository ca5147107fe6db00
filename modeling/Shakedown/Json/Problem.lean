/-!
Why a text is not a JSON document, and where.
-/

namespace Shakedown.Json

inductive Cause where
  | endInList
  | endInObject
  | endInText
  | endInValue
  | noColon
  | noListSeparator
  | noMemberSeparator
  | noWord
  | noValue
  | badEscape
  | badNumber
  | numberTooLarge
  | badName
  | loneSurrogate
  | cutSurrogate
  | controlCharacter
  | trailingComma
  | trailingText
  | tooDeep
deriving DecidableEq, Repr

def Cause.message : Cause → String
  | .endInList => "EOF while parsing a list"
  | .endInObject => "EOF while parsing an object"
  | .endInText => "EOF while parsing a string"
  | .endInValue => "EOF while parsing a value"
  | .noColon => "expected `:`"
  | .noListSeparator => "expected `,` or `]`"
  | .noMemberSeparator => "expected `,` or `\x7d`"
  | .noWord => "expected ident"
  | .noValue => "expected value"
  | .badEscape => "invalid escape"
  | .badNumber => "invalid number"
  | .numberTooLarge => "number out of range"
  | .badName => "key must be a string"
  | .loneSurrogate => "lone leading surrogate in hex escape"
  | .cutSurrogate => "unexpected end of hex escape"
  | .controlCharacter => "control character (\\u0000-\\u001F) found while parsing a string"
  | .trailingComma => "trailing comma"
  | .trailingText => "trailing characters"
  | .tooDeep => "recursion limit exceeded"

/-- A failure met while some bytes of the text were not yet taken in. -/
structure Failure where
  cause : Cause
  unread : Nat
deriving DecidableEq, Repr

/-- Lines count from one; the column is the number of bytes taken in on the line. -/
structure Problem where
  cause : Cause
  line : Nat
  column : Nat
deriving DecidableEq, Repr

def Problem.message (p : Problem) : String :=
  p.cause.message ++ " at line " ++ toString p.line ++ " column " ++ toString p.column

/-- Line and column after `count` more bytes. -/
def locate : (count line column : Nat) → List Char → Nat × Nat
  | 0, line, column, _ => (line, column)
  | _, line, column, [] => (line, column)
  | count + 1, line, column, c :: cs =>
    if c = '\n' then locate count (line + 1) 0 cs
    else
      let width := min (count + 1) c.utf8Size
      locate (count + 1 - width) line (column + width) cs

/-- How many bytes a text has in UTF-8. -/
def byteCount (cs : List Char) : Nat := cs.foldl (fun n c => n + c.utf8Size) 0

def Problem.ofFailure (text : List Char) (f : Failure) : Problem :=
  let place := locate (byteCount text - f.unread) 1 0 text
  ⟨f.cause, place.1, place.2⟩

example : (Problem.ofFailure "a\né]".toList ⟨.noValue, 1⟩).message =
    "expected value at line 2 column 2" := by decide

end Shakedown.Json
