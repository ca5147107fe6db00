import Shakedown.Check

/-!
Which checks a run is made of.

The unauthenticated checks always belong to it; each other group does when the settings hold all
that its checks ask for. A group left out never fails a run, but a note tells of it.
-/

namespace Shakedown

inductive Group where
  | unauthenticated
  | authenticated
  | orchestration
deriving DecidableEq, Repr

namespace Group

def name : Group → String
  | .unauthenticated => "unauthenticated"
  | .authenticated => "authenticated"
  | .orchestration => "orchestration"

def checks : Group → List Check
  | .unauthenticated => [.statusCode, .statusUp, .versionCode, .versionPresent]
  | .authenticated => [.jobListing, .randomJob]
  | .orchestration => [.randomImportJob, .importJobListing]

def all : List Group := [.unauthenticated, .authenticated, .orchestration]

end Group

inductive Note where
  | authenticatedIncluded
  | authenticatedSkipped
  | orchestrationIncluded
  | orchestrationSkipped
deriving DecidableEq, Repr

def Note.text : Note → String
  | .authenticatedIncluded =>
    "user_token and workspace_id both provided.  Running additional authenticated tests."
  | .authenticatedSkipped =>
    "user_token and/or workspace_id not provided.  Skipping authenticated tests."
  | .orchestrationIncluded => "Running orchestration tests."
  | .orchestrationSkipped =>
    "user_token, workspace_namespace, or workspace_name are missing.  " ++
      "Skipping orchestration tests."

structure Plan where
  groups : List Group
  notes : List Note
deriving DecidableEq

namespace Plan

/-- Every check with its group, in the order in which they are carried out. -/
def checks (p : Plan) : List (Group × Check) :=
  p.groups.flatMap fun g => g.checks.map (g, ·)

def size (p : Plan) : Nat := p.checks.length

def includes (p : Plan) (groupName : String) : Bool := p.groups.any (·.name = groupName)

def authenticatedPart (s : Settings) : List Group × Note :=
  if s.isAuthenticated then ([.authenticated], .authenticatedIncluded)
  else ([], .authenticatedSkipped)

/-- Nothing is noted unless an orchestration host was given. -/
def orchestrationPart (s : Settings) : List Group × List Note :=
  if !s.wantsOrchestration then ([], [])
  else if s.target.isSome then ([.orchestration], [.orchestrationIncluded])
  else ([], [.orchestrationSkipped])

def ofSettings (s : Settings) : Plan :=
  let authenticated := authenticatedPart s
  let orchestration := orchestrationPart s
  ⟨.unauthenticated :: authenticated.1 ++ orchestration.1,
    authenticated.2 :: orchestration.2⟩

end Plan
end Shakedown
