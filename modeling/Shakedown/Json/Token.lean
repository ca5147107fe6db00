import Shakedown.Json.Basic
import Shakedown.Json.Decimal

/-!
The tokens of a JSON document.

A token that cannot be read carries its failure and is the last one; whether that failure is what
is wrong with the document depends on what was awaited there.
-/

namespace Shakedown.Json

inductive Lexeme where
  | openList
  | closeList
  | openObject
  | closeObject
  | comma
  | colon
  | text (read : Except Failure String)
  | scalar (read : Except Failure Json)

/-- A lexeme and the number of bytes after its first one. -/
structure Token where
  lexeme : Lexeme
  after : Nat

def hexDigit? (c : Char) : Option Nat :=
  let n := c.toNat
  if 48 ≤ n && n ≤ 57 then some (n - 48)
  else if 65 ≤ n && n ≤ 70 then some (n - 55)
  else if 97 ≤ n && n ≤ 102 then some (n - 87)
  else none

/-- The UTF-16 unit of four hexadecimal digits. -/
def readUnit (left : Nat) (cs : List Char) : Except Failure Nat :=
  if left < 4 then .error ⟨.endInText, 0⟩
  else match (cs.take 4).mapM hexDigit? with
    | some [a, b, c, d] => .ok (((a * 16 + b) * 16 + c) * 16 + d)
    | _ => .error ⟨.badEscape, left - 4⟩

/-- Reads the second half of a surrogate pair. -/
def readPair (first left : Nat) : List Char → Except Failure (Char × Nat)
  | [] => .error ⟨.endInText, 0⟩
  | '\\' :: [] => .error ⟨.endInText, 0⟩
  | '\\' :: 'u' :: rest => do
    let second ← readUnit (left - 2) rest
    if 0xDC00 ≤ second && second ≤ 0xDFFF then
      pure (Char.ofNat ((first - 0xD800) * 1024 + (second - 0xDC00) + 0x10000), 11)
    else .error ⟨.loneSurrogate, left - 6⟩
  | '\\' :: _ => .error ⟨.cutSurrogate, left - 2⟩
  | _ => .error ⟨.cutSurrogate, left - 1⟩

/-- Reads what follows a backslash; the width counts the characters of it. -/
def readEscape (left : Nat) : List Char → Except Failure (Char × Nat)
  | [] => .error ⟨.endInText, 0⟩
  | 'u' :: rest => do
    let unit ← readUnit (left - 1) rest
    if 0xDC00 ≤ unit && unit ≤ 0xDFFF then .error ⟨.loneSurrogate, left - 5⟩
    else if 0xD800 ≤ unit && unit ≤ 0xDBFF then readPair unit (left - 5) (rest.drop 4)
    else pure (Char.ofNat unit, 5)
  | c :: _ =>
    match c with
    | '"' => .ok ('"', 1)
    | '\\' => .ok ('\\', 1)
    | '/' => .ok ('/', 1)
    | 'b' => .ok ('\x08', 1)
    | 'f' => .ok ('\x0c', 1)
    | 'n' => .ok ('\n', 1)
    | 'r' => .ok ('\r', 1)
    | 't' => .ok ('\t', 1)
    | _ => .error ⟨.badEscape, left - 1⟩

/-- Reads a text after its opening quote, passing over the `skip` characters of an escape. -/
def readText : (skip : Nat) → (done : List Char) → (width left : Nat) → List Char →
    Except Failure (String × Nat)
  | _, _, _, _, [] => .error ⟨.endInText, 0⟩
  | skip + 1, done, width, left, c :: rest =>
    readText skip done (width + 1) (left - c.utf8Size) rest
  | 0, done, width, left, c :: rest =>
    if c = '"' then .ok (String.ofList done.reverse, width + 1)
    else if c = '\\' then
      match readEscape (left - 1) rest with
      | .error f => .error f
      | .ok (e, span) => readText span (e :: done) (width + 1) (left - 1) rest
    else if c.toNat < 32 then .error ⟨.controlCharacter, left - 1⟩
    else readText 0 (c :: done) (width + 1) (left - c.utf8Size) rest

/-- Reads the rest of a word whose first letter was seen. -/
def readWord (value : Json) :
    (word : List Char) → (width left : Nat) → List Char → Except Failure (Json × Nat)
  | [], width, _, _ => .ok (value, width)
  | _ :: _, _, _, [] => .error ⟨.endInValue, 0⟩
  | w :: word, width, left, c :: rest =>
    if c = w then readWord value word (width + 1) (left - 1) rest
    else .error ⟨.noWord, left - 1⟩

/-- Reads a value that is neither a text nor a container, its first character apart. -/
def readScalar (left : Nat) (c : Char) (rest : List Char) : Except Failure (Json × Nat) :=
  match c with
  | 'n' => readWord .null ['u', 'l', 'l'] 0 (left - 1) rest
  | 't' => readWord (.bool true) ['r', 'u', 'e'] 0 (left - 1) rest
  | 'f' => readWord (.bool false) ['a', 'l', 's', 'e'] 0 (left - 1) rest
  | c =>
    if c = '-' || isDigit c then
      match readNumber left (c :: rest) with
      | .ok s => .ok (.number s.number, s.width - 1)
      | .error f => .error f
    else .error ⟨.noValue, left - 1⟩

def isBlank (c : Char) : Bool := c = ' ' || c = '\n' || c = '\t' || c = '\r'

/-- The lexeme that starts with `c` and its further width. -/
def readLexeme (left : Nat) (c : Char) (rest : List Char) : Lexeme × Nat :=
  match c with
  | '[' => (.openList, 0)
  | ']' => (.closeList, 0)
  | '\x7b' => (.openObject, 0)
  | '\x7d' => (.closeObject, 0)
  | ',' => (.comma, 0)
  | ':' => (.colon, 0)
  | '"' =>
    match readText 0 [] 0 (left - 1) rest with
    | .ok (s, width) => (.text (.ok s), width)
    | .error f => (.text (.error f), 0)
  | c =>
    match readScalar left c rest with
    | .ok (v, width) => (.scalar (.ok v), width)
    | .error f => (.scalar (.error f), 0)

def Lexeme.readable : Lexeme → Bool
  | .text (.error _) => false
  | .scalar (.error _) => false
  | _ => true

/-- The tokens after the `skip` characters that belong to the one before. -/
def tokensFrom : (skip left : Nat) → List Char → List Token
  | _, _, [] => []
  | skip + 1, left, c :: rest => tokensFrom skip (left - c.utf8Size) rest
  | 0, left, c :: rest =>
    if isBlank c then tokensFrom 0 (left - 1) rest
    else
      let found := readLexeme left c rest
      let token : Token := ⟨found.1, left - 1⟩
      if found.1.readable then token :: tokensFrom found.2 (left - c.utf8Size) rest
      else [token]

def tokens (text : List Char) : List Token := tokensFrom 0 (byteCount text) text

end Shakedown.Json
