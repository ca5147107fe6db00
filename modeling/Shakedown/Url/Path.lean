import Shakedown.Text.Percent
import Shakedown.Text.Split

/-!
Paths.

A path is a list of segments, each standing after a slash, or a plain text without structure.
`resolve` takes segments onto a path that is already there: one dot stays, two dots go up. A
segment that looks like the name of a drive, a letter with a colon or bar, is never gone up from.
-/

namespace Shakedown.Url

inductive Path where
  | segments (list : List String)
  | plain (text : String)
deriving DecidableEq

namespace Path

def segmentsText : List String → String
  | [] => ""
  | s :: rest => "/" ++ s ++ segmentsText rest

def text : Path → String
  | .segments list => segmentsText list
  | .plain s => s

/-- What a segment says about moving through the path. -/
inductive Move where
  | stay
  | up
  | into
deriving DecidableEq

/-- A dot may be written as `%2e`. -/
def dots : List Char → Option Nat
  | [] => some 0
  | '.' :: rest => (dots rest).map (· + 1)
  | '%' :: '2' :: e :: rest => if e = 'e' ∨ e = 'E' then (dots rest).map (· + 1) else none
  | _ => none

def move (segment : String) : Move :=
  match dots segment.toList with
  | some 1 => .stay
  | some 2 => .up
  | _ => .into

def isDrive (segment : String) : Bool :=
  match segment.toList with
  | [letter, mark] => letter.isAlpha && (mark = ':' || mark = '|')
  | _ => false

/-- Leaves the innermost segment of a path given with the innermost segment first. -/
def goUp : List String → List String
  | [] => []
  | s :: rest => if isDrive s then s :: rest else rest

/-- Takes segments onto a path given with the innermost segment first; the last one always leaves
a segment, an empty one after a move. -/
def resolveOnto (above : List String) : List String → List String
  | [] => above.reverse
  | [s] =>
    match move s with
    | .stay => ("" :: above).reverse
    | .up => ("" :: goUp above).reverse
    | .into => (s :: above).reverse
  | s :: rest =>
    match move s with
    | .stay => resolveOnto above rest
    | .up => resolveOnto (goUp above) rest
    | .into => resolveOnto (s :: above) rest

/-- The path that segments lead to from another one. -/
def resolve (start segments : List String) : List String := resolveOnto start.reverse segments

/-- Characters that stand in a path as they are. -/
def keeps (c : Char) : Bool :=
  Text.Percent.isGraphic c && !" \"#<>?`\x7b\x7d".toList.contains c

/-- The segments of a text between slashes, escaped. -/
def readSegments (isSlash : Char → Bool) (cs : List Char) : List String :=
  (Text.splitBy isSlash cs).map fun s => String.ofList (Text.Percent.encode keeps s)

example : resolve [] ["a", ".", "b", "..", "c"] = ["a", "c"] := by decide
example : resolve [] ["..", "%2E%2e"] = [""] ∧ resolve ["a"] ["C:", ".."] = ["a", "C:", ""] := by
  decide

end Path
end Shakedown.Url
