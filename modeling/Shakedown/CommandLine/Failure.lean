import Shakedown.CommandLine.Arguments
import Shakedown.Fault
import Shakedown.Text.Style

/-!
What a program writes when a fault ends it.
-/

namespace Shakedown.CommandLine

/-- The message of a fault with all that lies behind it. -/
def faultLine (fault : Fault) : String := Text.joinWith ": " (fault.message :: fault.causes)

def faultText (coloured : Bool) (fault : Fault) : String :=
  Text.Colour.red.apply coloured "×" ++ " " ++ faultLine fault ++ "\n" ++
    match fault.advice with
    | some advice => Text.Colour.cyan.apply coloured "→" ++ " " ++ advice ++ "\n"
    | none => ""

def Output.ofFault (coloured : Bool) (out : String) (fault : Fault) : Output :=
  { exitCode := 1, out, err := faultText coloured fault }

end Shakedown.CommandLine
