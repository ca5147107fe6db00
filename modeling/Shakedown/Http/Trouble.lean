import Shakedown.Url.Basic

/-!
Why a request brought no reply.
-/

namespace Shakedown.Http

inductive Trouble where
  | badBearer
  | badScheme (url : Url)
  | badUri (url : Url)
  | unreachable (url : Url) (causes : List String)
  /-- What was to be sent could not be read. -/
  | unreadBody (url : Url) (cause : String)
  | cutReply
deriving DecidableEq

namespace Trouble

def message : Trouble → String
  | .badBearer => "builder error"
  | .badScheme url => "builder error for url (" ++ url.text ++ ")"
  | .badUri url => "builder error for url (" ++ url.text ++ ")"
  | .unreachable url _ => "error sending request for url (" ++ url.text ++ ")"
  | .unreadBody url _ => "request or response body error for url (" ++ url.text ++ ")"
  | .cutReply => "error decoding response body"

/-- What lies behind the message, from the outermost cause to the innermost. -/
def causes : Trouble → List String
  | .badBearer => ["failed to parse header value"]
  | .badScheme _ => ["URL scheme is not allowed"]
  | .badUri _ => ["Parsed Url is not a valid Uri"]
  | .unreachable _ causes => causes
  | .unreadBody _ cause => [cause]
  | .cutReply => ["request or response body error", "error reading a body from connection"]

end Trouble
end Shakedown.Http
