import Shakedown.Text.Printable

/-!
Text shown between quotes in a message.

A quote and a backslash get a backslash before them, line ends, tabs and NUL have short forms, and
every other character that is not printable is shown as `\u` with its number in braces.
-/

namespace Shakedown.Text

private def hexDigits (n : Nat) : List Char := Nat.toDigits 16 n

/-- How one character stands between quotes. -/
def showChar (c : Char) : List Char :=
  match c with
  | '"' => ['\\', '"']
  | '\\' => ['\\', '\\']
  | '\n' => ['\\', 'n']
  | '\r' => ['\\', 'r']
  | '\t' => ['\\', 't']
  | '\x00' => ['\\', '0']
  | c =>
    if isPrintable c then [c]
    else '\\' :: 'u' :: '\x7b' :: hexDigits c.toNat ++ ['\x7d']

def quoted (s : String) : String :=
  String.ofList ('"' :: s.toList.flatMap showChar ++ ['"'])

example : quoted "a\"\n\x1b'" = "\"a\\\"\\n\\u\x7b1b\x7d'\"" := by decide +kernel

end Shakedown.Text
