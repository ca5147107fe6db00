import Shakedown.Text.Percent
import Shakedown.Toml.Line

/-!
Quoted text of a TOML document.

Text between double quotes may hold escapes, text between single quotes may not. Three quotes open
a text that runs over lines; up to two more may stand before the three that close it.
-/

namespace Shakedown.Toml

/-- The character that hexadecimal digits name. -/
def readCode (count : Nat) (cs : List Char) : Option (Char × List Char) :=
  match (cs.take count).mapM Text.Percent.hexValue with
  | some digits =>
    let code := digits.foldl (fun n d => n * 16 + d) 0
    if digits.length = count && (code < 0xD800 || (0xDFFF < code && code < 0x110000)) then
      some (Char.ofNat code, cs.drop count)
    else none
  | none => none

/-- Reads an escape after its backslash. -/
def readEscape : List Char → Option (Char × List Char)
  | [] => none
  | c :: rest =>
    match c with
    | 'b' => some ('\x08', rest)
    | 't' => some ('\t', rest)
    | 'n' => some ('\n', rest)
    | 'f' => some ('\x0c', rest)
    | 'r' => some ('\r', rest)
    | '"' => some ('"', rest)
    | '\\' => some ('\\', rest)
    | 'u' => readCode 4 rest
    | 'U' => readCode 8 rest
    | _ => none

/-- Reads text on one line after its opening quote. -/
def readLine (quote : Char) (escapes : Bool) : (fuel : Nat) → (done : List Char) → List Char →
    Option (String × List Char)
  | 0, _, _ => none
  | _, _, [] => none
  | fuel + 1, done, c :: rest =>
    if c = quote then some (String.ofList done.reverse, rest)
    else if c = '\\' && escapes then
      match readEscape rest with
      | some (e, after) => readLine quote escapes fuel (e :: done) after
      | none => none
    else if isPlain c then readLine quote escapes fuel (c :: done) rest
    else none

/-- What follows a backslash at the end of a line, blank lines and blanks apart. -/
def continued? (cs : List Char) : Option (List Char) :=
  (newline? (skipBlanks cs)).map skipBlankLines

/-- Reads text over lines after its three opening quotes. -/
def readBlock (quote : Char) (escapes : Bool) : (fuel : Nat) → (done : List Char) → List Char →
    Option (String × List Char)
  | 0, _, _ => none
  | _, _, [] => none
  | fuel + 1, done, c :: rest =>
    if c = quote then
      let run := min 5 ((c :: rest).takeWhile (· = quote)).length
      let after := (c :: rest).drop run
      if 3 ≤ run then
        some (String.ofList (done.reverse ++ List.replicate (run - 3) quote), after)
      else readBlock quote escapes fuel (List.replicate run quote ++ done) after
    else if c = '\\' && escapes then
      match continued? rest, readEscape rest with
      | some after, _ => readBlock quote escapes fuel done after
      | none, some (e, after) => readBlock quote escapes fuel (e :: done) after
      | none, none => none
    else match newline? (c :: rest) with
      | some after => readBlock quote escapes fuel ('\n' :: done) after
      | none => if isPlain c then readBlock quote escapes fuel (c :: done) rest else none

/-- Drops a line end that follows the opening quotes at once. -/
def dropNewline (cs : List Char) : List Char := (newline? cs).getD cs

/-- Whether a quote opens text with escapes. -/
def hasEscapes (quote : Char) : Bool := quote = '"'

/-- Reads quoted text on one line, such as a key may be. -/
def readQuotedKey : List Char → Option (String × List Char)
  | [] => none
  | quote :: rest =>
    if quote = '"' || quote = '\'' then readLine quote (hasEscapes quote) (rest.length + 1) [] rest
    else none

/-- Reads quoted text of any kind. -/
def readQuoted (cs : List Char) : Option (String × List Char) :=
  match cs with
  | a :: b :: c :: rest =>
    if (a = '"' || a = '\'') && a = b && b = c then
      readBlock a (hasEscapes a) (rest.length + 1) [] (dropNewline rest)
    else readQuotedKey cs
  | _ => readQuotedKey cs

example : readQuoted "\"a\\u00e9\"x".toList = some ("aé", ['x']) := by decide +kernel
example : readQuoted "'''\r\na\r\nb'''''".toList = some ("a\nb''", []) := by decide +kernel

end Shakedown.Toml
