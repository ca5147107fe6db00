import Shakedown.Toml.Basic

/-!
Lines of a TOML document: blanks, comments and line ends.
-/

namespace Shakedown.Toml

def isBlank (c : Char) : Bool := c = ' ' || c = '\t'

/-- Characters that may stand unescaped in comments and quoted text. -/
def isPlain (c : Char) : Bool := c = '\t' || (0x20 ≤ c.toNat && c.toNat ≠ 0x7F)

def skipBlanks (cs : List Char) : List Char := cs.dropWhile isBlank

/-- What follows a line end. -/
def newline? : List Char → Option (List Char)
  | '\n' :: rest => some rest
  | '\r' :: '\n' :: rest => some rest
  | _ => none

/-- Passes over a comment if there is one. -/
def skipComment : List Char → List Char
  | '#' :: rest => rest.dropWhile isPlain
  | cs => cs

/-- What follows the rest of a line on which nothing more is said. -/
def endLine? (cs : List Char) : Option (List Char) :=
  match skipComment (skipBlanks cs) with
  | [] => some []
  | rest => newline? rest

/-- Passes over lines on which nothing is said, as they may stand between the items of an array. -/
def skipLines : (fuel : Nat) → List Char → Option (List Char)
  | 0, _ => none
  | fuel + 1, cs =>
    let rest := skipBlanks cs
    match rest.head? with
    | some '#' => (newline? (skipComment rest)).bind (skipLines fuel)
    | some '\n' => (newline? rest).bind (skipLines fuel)
    | some '\r' => (newline? rest).bind (skipLines fuel)
    | _ => some rest

def skipAll (cs : List Char) : Option (List Char) := skipLines (cs.length + 1) cs

/-- Passes over blanks and line ends. -/
def skipBlankLines : List Char → List Char
  | '\r' :: '\n' :: rest => skipBlankLines rest
  | c :: rest => if isBlank c || c = '\n' then skipBlankLines rest else c :: rest
  | [] => []

end Shakedown.Toml
