import Shakedown.Text.Percent
import Shakedown.Text.Split

/-!
Form-encoded parameters, as a query carries them.

`append` adds one pair to a query that may already hold others. `decode` reads the pairs of a
query; an empty piece between two ampersands is no pair.
-/

namespace Shakedown.Text.Form

/-- The characters written as they are. -/
def keeps (c : Char) : Bool :=
  c.isAlphanum || c == '*' || c == '-' || c == '.' || c == '_'

/-- A blank becomes a plus sign, every other character outside `keeps` is percent-encoded. -/
def encode : List Char → List Char
  | [] => []
  | ' ' :: rest => '+' :: encode rest
  | c :: rest => Percent.encodeChar keeps c ++ encode rest

def append (query name value : List Char) : List Char :=
  (if query = [] then [] else query ++ ['&']) ++ encode name ++ '=' :: encode value

def decodeText (cs : List Char) : List Char :=
  Utf8.decode (Percent.decode (cs.map fun c => if c = '+' then ' ' else c))

/-- A piece without an equals sign is a name whose value is empty. -/
def decodePair (piece : List Char) : List Char × List Char :=
  (decodeText (piece.takeWhile (· ≠ '=')), decodeText ((piece.dropWhile (· ≠ '=')).drop 1))

def decode (query : List Char) : List (List Char × List Char) :=
  (splitBy (· == '&') query).filter (· ≠ []) |>.map decodePair

example : append [] "k".toList "a b&é".toList = "k=a+b%26%C3%A9".toList := by decide
example : decode "a=1&&b=x+y%3D&c".toList =
    [(['a'], ['1']), (['b'], ['x', ' ', 'y', '=']), (['c'], [])] := by decide

end Shakedown.Text.Form
