import Shakedown.Log
import Shakedown.Text.Form
import Shakedown.Url.Reader

/-!
Asking a token-info endpoint whether a user token still holds.

The token travels as a parameter of the query and never as a bearer token.
-/

namespace Shakedown.TokenInfo

/-- The address with one more pair in its query. -/
def withParameter (url : Url) (name value : String) : Url :=
  let query := (url.query.getD "").toList
  { url with query := some (String.ofList (Text.Form.append query name.toList value.toList)) }

def fetch (endpoint token : String) : Except Fault Fetch :=
  match Url.read endpoint with
  | .ok url => .ok ⟨withParameter url "access_token" token, none⟩
  | .error problem => .error (.invalidUrl endpoint "" problem.message)

def judge (reply : Reply) : Except Fault Unit :=
  if reply.isSuccess then .ok () else .error (.tokenRejected reply.status reply.body)

/-- Asks about a token, and gives the calls made up to then. -/
def validate (service : Service) (calls : List Fetch) (endpoint token : String) :
    Except Fault Unit × List Fetch :=
  match fetch endpoint token with
  | .error fault => (.error fault, calls)
  | .ok f =>
    match service calls f with
    | .error fault => (.error fault, calls ++ [f])
    | .ok reply => (judge reply, calls ++ [f])

/-- What is logged of the question about a token. -/
def log (service : Service) (calls : List Fetch) (endpoint token : String) : List Log.Entry :=
  match fetch endpoint token with
  | .error _ => []
  | .ok f =>
    let answer := service calls f
    Log.answered f answer ++ match answer with
      | .ok reply => [.tokenInfo reply.status]
      | .error _ => []

end Shakedown.TokenInfo
