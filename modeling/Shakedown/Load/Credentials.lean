import Shakedown.Fault
import Shakedown.Text.Split

/-!
Credentials of a load run, from the environment.

A variable that is set to nothing counts as missing, and all that are missing are told at once.
-/

namespace Shakedown

structure Credentials where
  token : String
  bee : String
  billingProject : String
deriving DecidableEq

namespace Credentials

def names : List String := ["AZURE_TOKEN", "BEE_NAME", "BILLING_PROJECT_NAME"]

/-- The value of a variable, unless it is missing or empty. -/
def value? (environment : String → Option String) (name : String) : Option String :=
  (environment name).filter (· ≠ "")

def missing (environment : String → Option String) : List String :=
  names.filter fun name => (value? environment name).isNone

def ofEnvironment (environment : String → Option String) : Except Fault Credentials :=
  match names.mapM (value? environment) with
  | some [token, bee, billingProject] => .ok ⟨token, bee, billingProject⟩
  | _ => .error (.config
      ("missing environment variables: " ++ Text.joinWith ", " (missing environment)))

/-- The credentials as they may be shown: without the token. -/
def shown (c : Credentials) : String :=
  "LoadCredentials \x7b azure_token: " ++ Text.quoted "<redacted>" ++ ", bee_name: " ++
    Text.quoted c.bee ++ ", billing_project: " ++ Text.quoted c.billingProject ++ " \x7d"

end Credentials
end Shakedown
