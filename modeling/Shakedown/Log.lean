import Shakedown.Http.Reply
import Shakedown.Verbosity

/-!
What a smoke run logs.

An entry has a level, a message and fields with values. Which entries are written, and in what form,
is up to a subscriber. Unless an operator asks for more, the subscriber takes warnings and errors
only, and a smoke run logs neither. Times of day are the subscriber's.
-/

namespace Shakedown.Log

/-- The levels of entries, from the gravest on. -/
inductive Level where
  | error
  | warn
  | info
  | debug
  | trace
deriving DecidableEq, Repr

def Level.depth : Level → Nat
  | .error => 0
  | .warn => 1
  | .info => 2
  | .debug => 3
  | .trace => 4

inductive Entry where
  | configured (host : String) (verbosity : Verbosity)
  /-- A reply that has come over the network. -/
  | got (url : Url) (status : Nat) (authenticated : Bool)
  /-- A reply that had been kept. -/
  | kept (url : Url)
  | tokenInfo (status : Nat)
  | assembled (groups : List String) (checks : Nat)
  | finished (group check outcome : String)
deriving DecidableEq

namespace Entry

def level : Entry → Level
  | .assembled .. => .info
  | _ => .debug

def message : Entry → String
  | .configured .. => "smoke run configured"
  | .got .. => "GET"
  | .kept .. => "response cache hit"
  | .tokenInfo .. => "token-info response"
  | .assembled .. => "assembled smoke suite"
  | .finished .. => "check finished"

def verbosityText : Verbosity → String
  | .quiet => "Quiet"
  | .minimal => "Minimal"
  | .verbose => "Verbose"

def namesText (names : List String) : String :=
  "[" ++ Text.joinWith ", " (names.map fun name => "\"" ++ name ++ "\"") ++ "]"

/-- The fields with the text of their values. -/
def fields : Entry → List (String × String)
  | .configured host verbosity => [("host", host), ("verbosity", verbosityText verbosity)]
  | .got url status authenticated =>
    [("url", url.text), ("status", toString status), ("authenticated", toString authenticated)]
  | .kept url => [("url", url.text)]
  | .tokenInfo status => [("status", toString status)]
  | .assembled groups checks => [("groups", namesText groups), ("checks", toString checks)]
  | .finished group check outcome => [("group", group), ("check", check), ("outcome", outcome)]

end Entry

/-- What is logged of a fetch that a service was asked for: nothing without a whole reply. -/
def answered (f : Fetch) : Except Fault Reply → List Entry
  | .ok reply => [.got f.url reply.status f.bearer.isSome]
  | .error _ => []

/-- Who reads a log: which entries are taken, and the line that each becomes by its number. -/
structure Subscriber where
  takes : Entry → Bool
  line : (number : Nat) → Level → (message : String) → (fields : List (String × String)) → String

def fieldsText : List (String × String) → String
  | [] => ""
  | (name, value) :: rest => " " ++ name ++ "=" ++ value ++ fieldsText rest

/-- A line of a message and its fields, without a number or a level. -/
def plainLine (_number : Nat) (_level : Level) (message : String)
    (fields : List (String × String)) : String :=
  message ++ fieldsText fields ++ "\n"

namespace Subscriber

/-- The subscriber to entries of a level and of graver ones. -/
def upTo (level : Level)
    (line : Nat → Level → String → List (String × String) → String) : Subscriber :=
  { takes := fun e => e.level.depth ≤ level.depth, line }

/-- The subscriber of a program that is not asked for another one. -/
def standard (line : Nat → Level → String → List (String × String) → String) : Subscriber :=
  upTo .warn line

def write (subscriber : Subscriber) (number : Nat) (e : Entry) : String :=
  if subscriber.takes e then subscriber.line number e.level e.message e.fields else ""

/-- What is written of a log whose first entry has the number given. -/
def writeAll (subscriber : Subscriber) : (number : Nat) → List Entry → String
  | _, [] => ""
  | number, e :: rest => subscriber.write number e ++ subscriber.writeAll (number + 1) rest

end Subscriber
end Shakedown.Log
