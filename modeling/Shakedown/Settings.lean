import Shakedown.Verbosity

/-!
What an operator gives a smoke run.

An empty text counts as one that was not given.
-/

namespace Shakedown

/-- Where import jobs are asked for, as given. -/
structure OrchestrationSettings where
  host : Option String := none
  workspaceNamespace : Option String := none
  workspaceName : Option String := none

/-- Everything that asking for import jobs takes. -/
structure Orchestration where
  host : String
  workspaceNamespace : String
  workspaceName : String
  userToken : String

structure Settings where
  host : String
  workspaceId : Option String := none
  userToken : Option String := none
  orchestration : OrchestrationSettings := {}
  verbosity : Verbosity := .minimal
  tokenInfoUrl : String := "https://www.googleapis.com/oauth2/v1/tokeninfo"

namespace Settings

/-- A text that was given and is not empty. -/
def present (value : Option String) : Option String := value.filter (· ≠ "")

def token (s : Settings) : Option String := present s.userToken

def workspace (s : Settings) : Option String := present s.workspaceId

def isAuthenticated (s : Settings) : Bool := s.token.isSome && s.workspace.isSome

/-- Whether import jobs were asked about, even if too little was given for it. -/
def wantsOrchestration (s : Settings) : Bool := (present s.orchestration.host).isSome

def target (s : Settings) : Option Orchestration := do
  some {
    host := ← present s.orchestration.host
    workspaceNamespace := ← present s.orchestration.workspaceNamespace
    workspaceName := ← present s.orchestration.workspaceName
    userToken := ← s.token }

end Settings
end Shakedown
