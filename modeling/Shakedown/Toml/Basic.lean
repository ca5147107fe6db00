/-!
Values of a TOML document.

Numbers with a fraction, dates and times are told apart from other values, but what they stand for
is not kept.
-/

namespace Shakedown

inductive Toml where
  | string (text : String)
  | integer (value : Int)
  | boolean (value : Bool)
  | float
  | moment
  | array (items : List Toml)
  | table (members : List (String × Toml))
deriving Inhabited

namespace Toml

/-- At most this many keys are joined by dots, and this many containers lie within one another. -/
def depthLimit : Nat := 79

end Toml
end Shakedown
