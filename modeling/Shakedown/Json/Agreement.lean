import Shakedown.Json.Basic

/-!
When two JSON values say the same: numbers by value, lists item by item, objects name by name.
-/

namespace Shakedown.Json

mutual

/-- The same value, but for the way its numbers are represented. -/
def agrees : Json → Json → Bool
  | .null, .null => true
  | .bool a, .bool b => a == b
  | .number a, .number b => a.agrees b
  | .string a, .string b => a == b
  | .list a, .list b => agreeItems a b
  | .object a, .object b => a.length == b.length && agreeMembers a b
  | _, _ => false

def agreeItems : List Json → List Json → Bool
  | [], [] => true
  | a :: as, b :: bs => agrees a b && agreeItems as bs
  | _, _ => false

/-- Every member on the left has one of its name on the right that agrees with it. -/
def agreeMembers : List (String × Json) → List (String × Json) → Bool
  | [], _ => true
  | (name, a) :: rest, bs =>
    (match bs.lookup name with
      | some b => agrees a b
      | none => false) && agreeMembers rest bs

end

end Shakedown.Json
