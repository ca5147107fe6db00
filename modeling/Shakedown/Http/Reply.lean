import Shakedown.Fault
import Shakedown.Json.Parser

/-!
Replies, and the services that give them.

What a service answers to a fetch may depend on every fetch it has seen before.
-/

namespace Shakedown

structure Reply where
  status : Nat
  body : String
deriving DecidableEq

namespace Reply

def isSuccess (r : Reply) : Bool := 200 ≤ r.status && r.status < 300

theorem isSuccess_iff {r : Reply} : r.isSuccess = true ↔ 200 ≤ r.status ∧ r.status ≤ 299 := by
  rw [isSuccess, Bool.and_eq_true, decide_eq_true_eq, decide_eq_true_eq]
  omega

def json (r : Reply) : Except Fault Json :=
  match Json.parse r.body with
  | .ok j => .ok j
  | .error p => .error (.decode p)

end Reply

/-- A request to read what is at an address, perhaps with a bearer token. -/
structure Fetch where
  url : Url
  bearer : Option String
deriving DecidableEq

abbrev Service := (earlier : List Fetch) → Fetch → Except Fault Reply

end Shakedown
