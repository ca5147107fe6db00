import Shakedown.Url.Host
import Shakedown.Url.Path

/-!
Addresses of resources, and their text.
-/

namespace Shakedown

namespace Url

/-- Who is asked for a resource: a host, and perhaps a port and a name to ask under. -/
structure Authority where
  username : String := ""
  password : Option String := none
  host : Host
  port : Option Nat := none
deriving DecidableEq

namespace Authority

def hasUser (a : Authority) : Bool := a.username ≠ "" || a.password.isSome

def userText (a : Authority) : String :=
  if a.hasUser then
    a.username ++ (match a.password with | some p => ":" ++ p | none => "") ++ "@"
  else ""

def text (a : Authority) : String :=
  a.userText ++ a.host.text ++ (match a.port with | some p => ":" ++ toString p | none => "")

end Authority
end Url

structure Url where
  scheme : String
  authority : Option Url.Authority
  path : Url.Path
  query : Option String := none
  fragment : Option String := none
deriving DecidableEq

namespace Url

/-- The part after the path. -/
def tailText (query fragment : Option String) : String :=
  (match query with | some q => "?" ++ q | none => "") ++
    (match fragment with | some f => "#" ++ f | none => "")

/-- The part between scheme and path. Without an authority, a path that would read as one gets a
dot segment before it. -/
def authorityText (u : Url) : String :=
  match u.authority, u.path with
  | some a, _ => "//" ++ a.text
  | none, .segments ("" :: _ :: _) => "/."
  | none, _ => ""

def text (u : Url) : String :=
  u.scheme ++ ":" ++ u.authorityText ++ u.path.text ++ tailText u.query u.fragment

/-- Whether the address can be asked for over HTTP. -/
def isWeb (u : Url) : Bool := u.scheme = "http" || u.scheme = "https"

/-- Scheme, host and port: who answers for the address. -/
def origin (u : Url) : String × Option (Host × Option Nat) :=
  (u.scheme, u.authority.map fun a => (a.host, a.port))

end Url
end Shakedown
