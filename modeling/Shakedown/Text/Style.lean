/-!
Coloured text for a terminal.

A style is written as escape sequences before the text and one that resets it after; without
colours the text stands as it is.
-/

namespace Shakedown.Text

inductive Colour where
  | red
  | green
  | yellow
  | cyan
deriving DecidableEq, Repr

def Colour.code : Colour → String
  | .red => "31"
  | .green => "32"
  | .yellow => "33"
  | .cyan => "36"

structure Style where
  colour : Option Colour := none
  bold : Bool := false

def escape (code : String) : String := "\x1b[" ++ code ++ "m"

def Style.codes (s : Style) : String :=
  ((s.colour.map fun c => escape c.code).getD "") ++ if s.bold then escape "1" else ""

def Style.apply (s : Style) (coloured : Bool) (text : String) : String :=
  if coloured then s.codes ++ text ++ escape "0" else text

def Colour.apply (c : Colour) (coloured : Bool) (text : String) : String :=
  Style.apply ⟨some c, false⟩ coloured text

/-- Whether output is coloured: always if that is forced, else on a terminal that shows colours and
unless they are refused. -/
def coloursWanted (environment : String → Option String) (isTerminal : Bool) : Bool :=
  (environment "CLICOLOR_FORCE").any (· ≠ "0") ||
    (isTerminal && (environment "NO_COLOR").isNone && (environment "TERM").any (· ≠ "dumb") &&
      environment "CLICOLOR" ≠ some "0")

def colourVariables : List String := ["CLICOLOR_FORCE", "NO_COLOR", "TERM", "CLICOLOR"]

theorem Style.apply_false (s : Style) (text : String) : s.apply false text = text := rfl

end Shakedown.Text
