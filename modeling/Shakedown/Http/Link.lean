import Shakedown.Http.Reply
import Shakedown.Text.Percent

/-!
The network below HTTP.

A request is prepared before it is sent: its headers and address are checked and a name in the
address becomes a credential of its own. A link says what becomes of a prepared request, given the
ones sent before it.
-/

namespace Shakedown.Http

inductive Method where
  | get
  | post
  | put
deriving DecidableEq, Repr

inductive Body where
  | empty
  | json (text : String)
  | file (field : String) (fileName : Option String) (content : List UInt8)
deriving DecidableEq

structure Request where
  method : Method := .get
  url : Url
  bearer : Option String := none
  acceptsJson : Bool := false
  body : Body := .empty
  user : Option (String × Option String) := none
deriving DecidableEq

/-- What came back on a connection. There is no body if the connection broke within it. -/
structure Answer where
  status : Nat
  body : Option (List UInt8)

inductive Exchange where
  | answer (answer : Answer)
  | unreachable (causes : List String)

abbrev Link := (earlier : List Request) → Request → Exchange

/-- Whether a header may hold the text: no control characters but tabs. -/
def isHeaderText (s : String) : Bool :=
  s.toList.all fun c => c = '\t' || (0x20 ≤ c.toNat && c.toNat ≠ 0x7F)

/-- Characters that a host name may hold and a request must not. -/
def isUnsendable (c : Char) : Bool := c = '"' || c = '`' || c = '\x7b' || c = '\x7d'

/-- The longest address that can be sent, in bytes. -/
def longestUri : Nat := 65534

def isSendable (url : Url) : Bool :=
  url.text.utf8ByteSize ≤ longestUri &&
    url.authority.all fun a => !a.host.text.toList.any isUnsendable

def decodeUser (field : String) : Option String :=
  (Text.Utf8.decode? (Text.Percent.decode field.toList)).map String.ofList

/-- The name and password of an authority as text. A name that is no UTF-8 is none. -/
def userOf (a : Url.Authority) : Option (String × Option String) :=
  match decodeUser a.username with
  | none => none
  | some name =>
    let password := a.password.bind decodeUser
    if name = "" && password.isNone then none else some (name, password)

/-- The address without the name in it. -/
def withoutUser (url : Url) : Url :=
  { url with authority := url.authority.map fun a => { a with username := "", password := none } }

namespace Request

/-- Takes the name out of the address. -/
def separateUser (r : Request) : Request :=
  match r.url.authority.bind userOf with
  | some user => { r with url := withoutUser r.url, user := some user }
  | none => r

def prepare (r : Request) : Except Trouble Request :=
  let r := r.separateUser
  if !r.bearer.all isHeaderText then .error .badBearer
  else if !r.url.isWeb then .error (.badScheme r.url)
  else if !isSendable r.url then .error (.badUri r.url)
  else .ok r

end Request

/-- The text of a body, whatever its bytes. A byte order mark is a character of it. -/
def bodyText (bytes : List UInt8) : String := String.ofList (Text.Utf8.decode bytes)

def Answer.reply (a : Answer) : Except Trouble Reply :=
  match a.body with
  | some bytes => .ok ⟨a.status, bodyText bytes⟩
  | none => .error .cutReply

/-- The answer in an exchange, if the address could be reached. -/
def Exchange.read (url : Url) : Exchange → Except Trouble Answer
  | .answer a => .ok a
  | .unreachable causes => .error (.unreachable url causes)

/-- What comes of a request after the ones sent before it. -/
def Link.perform (link : Link) (sent : List Request) (r : Request) : Except Trouble Answer := do
  let prepared ← r.prepare
  (link sent prepared).read prepared.url

def Request.ofFetch (f : Fetch) : Request := { url := f.url, bearer := f.bearer }

/-- The requests that fetches put on the network. -/
def sentFor (fetches : List Fetch) : List Request :=
  fetches.filterMap fun f => (Request.ofFetch f).prepare.toOption

/-- A service reached over a link. What is logged of a fetch by the way is `Log.answered`. -/
def Link.service (link : Link) : Service := fun earlier f =>
  ((link.perform (sentFor earlier) (Request.ofFetch f)).bind Answer.reply).mapError .http

/-- A network on which no connection comes about. -/
def Link.down : Link := fun _ _ =>
  .unreachable ["client error (Connect)", "tcp connect error",
    "Network is unreachable (os error 101)"]

end Shakedown.Http
