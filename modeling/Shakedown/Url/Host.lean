import Shakedown.Text.Percent
import Shakedown.Url.Domain
import Shakedown.Url.Ipv6
import Shakedown.Url.Problem

/-!
Hosts: names and addresses.
-/

namespace Shakedown.Url

inductive Host where
  | name (text : String)
  | ipv4 (address : BitVec 32)
  | ipv6 (address : BitVec 128)
deriving DecidableEq

namespace Host

def text : Host → String
  | .name s => s
  | .ipv4 a => Ipv4.text a
  | .ipv6 a => "[" ++ Ipv6.text a ++ "]"

/-- Reads an IPv6 address between brackets, the opening one apart. -/
def readBracketed (cs : List Char) : Except Problem Host :=
  if cs.getLast? = some ']' then
    match Ipv6.read? cs.dropLast with
    | some a => .ok (.ipv6 a)
    | none => .error .badIpv6
  else .error .badIpv6

/-- Reads the host of an address whose scheme browsers know. -/
def read (cs : List Char) : Except Problem Host :=
  match cs with
  | '[' :: rest => readBracketed rest
  | _ =>
    match Domain.toAscii? (Text.Percent.decode cs) with
    | none => .error .badDomain
    | some [] => .error .emptyHost
    | some domain =>
      if Ipv4.looksLike domain then
        match Ipv4.read? domain with
        | some a => .ok (.ipv4 a)
        | none => .error .badIpv4
      else .ok (.name (String.ofList domain))

/-- Characters that the host of any other address may not hold. -/
def isForbidden (c : Char) : Bool :=
  c = '\x00' || "\t\n\r #/:<>?@[\\]^|".toList.contains c

/-- Reads the host of an address with any other scheme. -/
def readPlain (cs : List Char) : Except Problem Host :=
  match cs with
  | '[' :: rest => readBracketed rest
  | _ =>
    if cs.any isForbidden then .error .badHostCharacter
    else .ok (.name (String.ofList (Text.Percent.encode Text.Percent.isGraphic cs)))

end Host
end Shakedown.Url
