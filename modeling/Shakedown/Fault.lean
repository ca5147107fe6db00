import Shakedown.Http.Trouble
import Shakedown.Json.Problem
import Shakedown.Text.Quoted

/-!
What can go wrong around a run, told to the operator.

A fault has a message, may have causes behind it, and may come with advice on what to do.
-/

namespace Shakedown

inductive Fault where
  | invalidUrl (host path reason : String)
  | http (trouble : Http.Trouble)
  | tokenRejected (status : Nat) (body : String)
  | unexpectedStatus (context : String) (status : Nat) (body : String)
  | decode (problem : Json.Problem)
  | config (text : String)
  | io (text : String)
  | notReady (app workspaceId : String) (waitedSeconds : Nat)
deriving DecidableEq

namespace Fault

def message : Fault → String
  | .invalidUrl host path reason =>
    "invalid URL for host " ++ Text.quoted host ++ " and path " ++ Text.quoted path ++
      ": " ++ reason
  | .http trouble => "HTTP request failed: " ++ trouble.message
  | .tokenRejected status body =>
    "user token is no longer valid (HTTP " ++ toString status ++
      "); generate a new token and try again: " ++ body
  | .unexpectedStatus context status body =>
    context ++ " returned HTTP " ++ toString status ++ ": " ++ body
  | .decode problem => "failed to decode response body: " ++ problem.message
  | .config text => "configuration error: " ++ text
  | .io text => "I/O error: " ++ text
  | .notReady app workspaceId waited =>
    app ++ " app in workspace " ++ workspaceId ++ " not ready after " ++ toString waited ++ "s"

def causes : Fault → List String
  | .http trouble => trouble.message :: trouble.causes
  | .decode problem => [problem.message]
  | .io text => [text]
  | _ => []

def advice : Fault → Option String
  | .tokenRejected _ _ =>
    some "Generate a fresh token (e.g. 'gcloud auth print-access-token') and rerun."
  | .invalidUrl _ _ _ =>
    some "Pass the host as 'example.com', 'example.com:8080' or 'https://example.com'."
  | .http _ => some "Check that the host is reachable from this machine."
  | .config _ =>
    some ("Set AZURE_TOKEN, BEE_NAME and BILLING_PROJECT_NAME before running the load test.")
  | .notReady _ _ _ =>
    some "Raise [readiness].timeout_secs in the load-test config if apps start slowly."
  | _ => none

end Fault
end Shakedown
