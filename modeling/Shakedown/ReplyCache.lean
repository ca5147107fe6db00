import Shakedown.Log

/-!
Replies kept for the length of a run.

A reply is kept under the text of its address and the bearer token it was asked for with. A fetch
that failed leaves nothing behind, so the next one with the same key goes to the service again.
-/

namespace Shakedown

structure ReplyCache where
  entries : List ((String × Option String) × Reply) := []

namespace ReplyCache

def keyOf (f : Fetch) : String × Option String := (f.url.text, f.bearer)

def find? (c : ReplyCache) (f : Fetch) : Option Reply := c.entries.lookup (keyOf f)

def add (c : ReplyCache) (f : Fetch) (r : Reply) : ReplyCache := ⟨(keyOf f, r) :: c.entries⟩

def size (c : ReplyCache) : Nat := c.entries.length

def isEmpty (c : ReplyCache) : Bool := c.entries.isEmpty

end ReplyCache

/-- A cache in front of a service, with every call the service has had, oldest first. -/
structure Caller where
  cache : ReplyCache := {}
  calls : List Fetch := []

namespace Caller

/-- Asks the service, whatever the cache holds. -/
def fetchDirect (service : Service) (c : Caller) (f : Fetch) : Except Fault Reply × Caller :=
  (service c.calls f, { c with calls := c.calls ++ [f] })

/-- Answers from the cache, or asks the service and keeps what it replies. -/
def fetch (service : Service) (c : Caller) (f : Fetch) : Except Fault Reply × Caller :=
  match c.cache.find? f with
  | some reply => (.ok reply, c)
  | none =>
    match fetchDirect service c f with
    | (.ok reply, asked) => (.ok reply, { asked with cache := asked.cache.add f reply })
    | (.error fault, asked) => (.error fault, asked)

/-- What is logged of a fetch with this result: that its reply was kept, or what the service said. -/
def log (c : Caller) (f : Fetch) (result : Except Fault Reply) : List Log.Entry :=
  match c.cache.find? f with
  | some _ => [.kept f.url]
  | none => Log.answered f result

end Caller
end Shakedown
