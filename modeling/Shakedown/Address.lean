import Shakedown.Fault
import Shakedown.Text.Blank
import Shakedown.Text.Utf8
import Shakedown.Url.Base

/-!
Hosts as an operator types them.

A host may come bare (`wds.example.com:8080`) or with a scheme (`http://localhost:8080`); a bare one
is asked over HTTPS. What is asked for is named by a reference, read against the host the way a
browser reads a link.
-/

namespace Shakedown.Address

/-- What a host may open with to say how it is asked. -/
def leads : List String := ["http://", "https://"]

/-- Whether a host comes with a web scheme, in any letter case. -/
def hasWebScheme (host : String) : Bool :=
  leads.any fun lead =>
    (Text.Utf8.front? lead.utf8ByteSize (Text.trimStart host.toList)).any (Text.spells lead.toList)

/-- A host without the white space around it. -/
def trimmed (host : String) : String := String.ofList (Text.trim host.toList)

/-- The address that a host stands for, before it is read. -/
@[irreducible]
def addressText (host : String) : String :=
  if hasWebScheme (trimmed host) then trimmed host else "https://" ++ trimmed host

/-- The base that a host stands for. -/
def base (host : String) : Except Url.Problem Url.Base := do
  Url.Base.ofUrl (← Url.read (addressText host))

/-- The address that a reference names on a host. -/
def url (host reference : String) : Except Url.Problem Url := do
  (← base host).join reference

/-- The same, with a fault that tells what was asked for. -/
def resolve (host reference : String) : Except Fault Url :=
  match url host reference with
  | .ok found => .ok found
  | .error problem => .error (.invalidUrl host reference problem.message)

private def shown (host reference : String) : String :=
  match url host reference with
  | .ok u => u.text
  | .error p => p.message

example : hasWebScheme "  HTTPS://a" ∧ !hasWebScheme "http:/é" := by decide +kernel
example : shown "example.com:8443/x" "/job/v1?a=b" = "https://example.com:8443/job/v1?a=b" := by
  decide +kernel
example : shown "Http://a/x/y" "z/../w" = "http://a/x/w" ∧ shown "" "/" = "empty host" := by
  decide +kernel

end Shakedown.Address
