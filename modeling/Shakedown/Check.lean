import Shakedown.Address
import Shakedown.ReplyCache
import Shakedown.Settings
import Shakedown.Uuid

/-!
The checks of a smoke run.

Each check asks one question of a deployed service, `Check.fetch`, and judges the reply on its own,
`Check.judge`. No check depends on another, so they may be carried out in any order.
-/

namespace Shakedown

/-- How a check ended: it may fail on the reply it got, or not be carried out at all. -/
inductive Verdict where
  | passed
  | failed (message : String)
  | errored (message : String)
deriving DecidableEq

namespace Verdict

def symbol : Verdict → Char
  | .passed => '.'
  | .failed _ => 'F'
  | .errored _ => 'E'

def label : Verdict → String
  | .passed => "ok"
  | .failed _ => "FAIL"
  | .errored _ => "ERROR"

def isPassed : Verdict → Bool
  | .passed => true
  | _ => false

def message : Verdict → Option String
  | .passed => none
  | .failed m => some m
  | .errored m => some m

def ofFault (f : Fault) : Verdict := .errored f.message

end Verdict

namespace Settings

def requireToken (s : Settings) : Except Verdict String :=
  match s.token with
  | some token => .ok token
  | none => .error (.errored "user token not configured")

/-- The fetch of a reference on the host under test, with the user token or without. -/
def hostFetch (s : Settings) (reference : String) (authenticated : Bool) :
    Except Verdict Fetch :=
  match Address.resolve s.host reference with
  | .error fault => .error (.ofFault fault)
  | .ok url =>
    if authenticated then s.requireToken.map fun token => ⟨url, some token⟩
    else .ok ⟨url, none⟩

def requireWorkspace (s : Settings) : Except Verdict String :=
  match s.workspace with
  | some id => .ok id
  | none => .error (.errored "workspace id not configured")

def requireTarget (s : Settings) : Except Verdict Orchestration :=
  match s.target with
  | some target => .ok target
  | none => .error (.errored "orchestration host, namespace or name not configured")

/-- The fetch of a reference on the orchestration host, with the user token. -/
def orchestrationFetch (s : Settings) (reference : String) : Except Verdict Fetch := do
  let target ← s.requireTarget
  match Address.resolve target.host reference with
  | .error fault => .error (.ofFault fault)
  | .ok url => .ok ⟨url, some target.userToken⟩

end Settings

inductive Check where
  | statusCode
  | statusUp
  | versionCode
  | versionPresent
  | jobListing
  | randomJob
  | randomImportJob
  | importJobListing
deriving DecidableEq, Repr

namespace Check

def name : Check → String
  | .statusCode => "status_code_is_200"
  | .statusUp => "status_and_components_are_up"
  | .versionCode => "version_code_is_200"
  | .versionPresent => "version_is_present"
  | .jobListing => "job_listing_status_is_200_with_array"
  | .randomJob => "random_job_status_is_404"
  | .randomImportJob => "random_import_job_status_is_404"
  | .importJobListing => "import_job_listing_status_is_200_with_array"

def description : Check → String
  | .statusCode => "Call the status url; it should return 200"
  | .statusUp => "The status payload and every component in it should report UP"
  | .versionCode => "Call the version url; it should return 200"
  | .versionPresent => "The version payload should carry a non-empty build.version"
  | .jobListing =>
    "Call the job-listing url; it should return 200 and the response should be an array"
  | .randomJob =>
    "Call the job-status url; it should return 404 since we are specifying a random job id"
  | .randomImportJob =>
    "Call the import job-status url; it should return 404 since we are specifying a random job id"
  | .importJobListing =>
    "Call the import job-listing url; it should return 200 and the response should be an array"

def workspacePath (target : Orchestration) : String :=
  "/api/workspaces/" ++ target.workspaceNamespace ++ "/" ++ target.workspaceName

/-- What the check asks, with `id` for the job that it makes up, if it makes one up. -/
def fetch (settings : Settings) (id : Uuid) : Check → Except Verdict Fetch
  | .statusCode => settings.hostFetch "/status" false
  | .statusUp => settings.hostFetch "/status" false
  | .versionCode => settings.hostFetch "/version" false
  | .versionPresent => settings.hostFetch "/version" false
  | .jobListing => do
    let workspaceId ← settings.requireWorkspace
    settings.hostFetch ("/job/v1/instance/" ++ workspaceId) true
  | .randomJob => settings.hostFetch ("/job/v1/" ++ id.text) true
  | .randomImportJob => do
    let target ← settings.requireTarget
    settings.orchestrationFetch (workspacePath target ++ "/importJob/" ++ id.text)
  | .importJobListing => do
    let target ← settings.requireTarget
    settings.orchestrationFetch (workspacePath target ++ "/importJob?runningOnly=true")

def judgeStatus (label : String) (expected : Nat) (reply : Reply) : Verdict :=
  if reply.status = expected then .passed
  else .failed (label ++ " HTTP status is " ++ toString reply.status ++ " not " ++
    toString expected ++ ": " ++ reply.body)

/-- Judges the JSON of a reply, which must be there. -/
def judgeJson (reply : Reply) (judge : Json → Verdict) : Verdict :=
  match reply.json with
  | .ok j => judge j
  | .error fault => .ofFault fault

def judgeListing (reply : Reply) : Verdict :=
  match judgeStatus "Job Listing" 200 reply with
  | .passed => judgeJson reply fun j =>
    if j.list?.isSome then .passed
    else .failed ("job listing was not an array: " ++ reply.body)
  | other => other

def isUp (j : Json) : Bool := j.text? "status" = some "UP"

/-- The names of the components that are not up. -/
def down (components : List (String × Json)) : List String :=
  (components.filter fun c => !isUp c.2).map Prod.fst

/-- Components need not be reported; each one that is has to be up. -/
def judgeComponents (body : String) (payload : Json) : Verdict :=
  match payload.get? "components" with
  | none => .passed
  | some components =>
    match components.members? with
    | none => .failed ("components is not an object: " ++ body)
    | some members =>
      if down members = [] then .passed
      else .failed ("components not UP: " ++ Text.joinWith ", " (down members) ++ ": " ++ body)

def judgeUp (reply : Reply) : Verdict :=
  judgeJson reply fun j =>
    if isUp j then judgeComponents reply.body j
    else .failed ("Status is not UP: " ++ reply.body)

def judgeVersion (reply : Reply) : Verdict :=
  judgeJson reply fun j =>
    let version := ((j.get? "build").bind fun build => build.text? "version").getD ""
    if Text.trim version.toList = [] then
      .failed ("build.version missing or empty: " ++ reply.body)
    else .passed

/-- What the check makes of the reply to its fetch. -/
def judge (reply : Reply) : Check → Verdict
  | .statusCode => judgeStatus "Status" 200 reply
  | .statusUp => judgeUp reply
  | .versionCode => judgeStatus "Version" 200 reply
  | .versionPresent => judgeVersion reply
  | .jobListing => judgeListing reply
  | .randomJob => judgeStatus "Job Status" 404 reply
  | .randomImportJob => judgeStatus "Job Status" 404 reply
  | .importJobListing => judgeListing reply

/-- Carries out a check through a caller. -/
def run (settings : Settings) (service : Service) (id : Uuid) (caller : Caller) (check : Check) :
    Verdict × Caller :=
  match check.fetch settings id with
  | .error verdict => (verdict, caller)
  | .ok f =>
    match caller.fetch service f with
    | (.ok reply, after) => (check.judge reply, after)
    | (.error fault, after) => (.ofFault fault, after)

/-- What is logged while a check is carried out. -/
def log (settings : Settings) (service : Service) (id : Uuid) (caller : Caller) (check : Check) :
    List Log.Entry :=
  match check.fetch settings id with
  | .error _ => []
  | .ok f => caller.log f (caller.fetch service f).1

end Check
end Shakedown
