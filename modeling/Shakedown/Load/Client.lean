import Shakedown.Address
import Shakedown.Files
import Shakedown.Json.Printer
import Shakedown.Load.Trace
import Shakedown.Record.Basic
import Shakedown.Uuid

/-!
The calls of a load run: to the services that provision workspaces and apps, and to the apps
themselves.

Every call carries the run's bearer token. A reply other than a success is a fault that tells its
status and body.
-/

namespace Shakedown.Load

structure ServiceUrls where
  workspaceManager : String
  rawls : String
  leonardo : String
deriving DecidableEq

/-- The services of a named environment. -/
def ServiceUrls.ofBee (bee : String) : ServiceUrls :=
  let url (service : String) := "https://" ++ service ++ "." ++ bee ++ ".bee.envs-terra.bio"
  ⟨url "workspace", url "rawls", url "leonardo"⟩

/-- What a run reaches for: the network, the files as they are after what has happened, and random
values by number. -/
structure World where
  link : Http.Link
  files : (happened : List Action) → Files
  ids : Nat → Uuid
  letters : Nat → Fin 5 → Fin 26

/-- Files that stay as they are. -/
instance : Coe Files (List Action → Files) := ⟨fun files _ => files⟩

structure Client where
  world : World
  urls : ServiceUrls
  token : String

/-- A workspace name that ends in five letters. -/
def workspaceName (letters : Fin 5 → Fin 26) : String :=
  "api-workspace-" ++ String.ofList ((List.finRange 5).map fun i => Char.ofNat (97 + letters i))

def recordsVersion : String := "v0.2"

/-- The address of a path below an app's own address. -/
def appUrl (proxyUrl path : String) : Except Fault Url :=
  let base := String.ofList (proxyUrl.toList.reverse.dropWhile (· = '/')).reverse ++ "/"
  Address.resolve base (String.ofList (path.toList.dropWhile (· = '/')))

def recordPath (workspaceId : String) (record : Record) : String :=
  "/" ++ workspaceId ++ "/records/" ++ recordsVersion ++ "/" ++ record.recordType ++
    "/" ++ record.id

/-- The name at the end of a path, if it does not go up there. Slashes behind it and dots that stay
in place say nothing. -/
def fileName (path : String) : Option String :=
  let components := (Text.splitBy (· == '/') path.toList).map String.ofList
  match (components.filter fun name => name ≠ "" && name ≠ ".").getLast? with
  | some ".." => none
  | last => last

example : fileName "data/all.tsv/." = some "all.tsv" ∧ fileName "data/.." = none := by
  decide +kernel

/-- The body of a reply, which must be a success. -/
def expectSuccess (context : String) (reply : Reply) : Except Fault String :=
  if reply.isSuccess then .ok reply.body
  else .error (.unexpectedStatus context reply.status reply.body)

/-- The JSON of a reply, which must be a success. -/
def expectJson (context : String) (reply : Reply) : Except Fault Json :=
  (expectSuccess context reply).bind fun _ => reply.json

/-- The identifier in the reply to the creation of a workspace. -/
def workspaceIdOf (created : Json) : Except Fault String :=
  match created.text? "workspaceId" with
  | some id => .ok id
  | none =>
    .error (.unexpectedStatus "workspace creation" 200 ("no workspaceId in " ++ created.text))

namespace Client

/-- A request with the run's token. -/
def authorize (c : Client) (r : Http.Request) : Http.Request := { r with bearer := some c.token }

/-- Sends a request with the token and makes what it should of the answer. -/
def ask {α : Type} (c : Client) (request : Except Fault Http.Request)
    (judge : Http.Answer → Except Fault α) (t : Trace) : Except Fault α × Trace :=
  match request with
  | .error fault => (.error fault, t)
  | .ok r =>
    let (answer, after) := t.send c.world.link (c.authorize r)
    (answer.bind judge, after)

/-- Sends a request of whose answer the whole reply matters. -/
def call {α : Type} (c : Client) (request : Except Fault Http.Request)
    (judge : Reply → Except Fault α) : Trace → Except Fault α × Trace :=
  c.ask request fun answer => (answer.reply.mapError .http).bind judge

/-- Asks the workspace manager for its workspaces, and gives the status of the answer. -/
def probe (c : Client) : Trace → Except Fault Nat × Trace :=
  c.ask ((Address.resolve c.urls.workspaceManager "/api/workspaces/v1").map fun url => { url })
    fun answer => .ok answer.status

def creationBody (billingProject name : String) : Json :=
  .ofMembers [("namespace", .string billingProject), ("name", .string name),
    ("attributes", .object [])]

/-- Creates a workspace, and gives its identifier. -/
def createWorkspace (c : Client) (billingProject : String) (t : Trace) :
    Except Fault String × Trace :=
  let (n, t) := t.draw
  let body := creationBody billingProject (workspaceName (c.world.letters n))
  c.call ((Address.resolve c.urls.rawls "/api/workspaces").map fun url =>
      { url, method := .post, body := .json body.text })
    (fun reply => (expectJson "workspace creation" reply).bind workspaceIdOf) t

/-- Requests the app that workflows are submitted to. -/
def requestCbas (c : Client) (workspaceId : String) (t : Trace) : Except Fault Unit × Trace :=
  let (n, t) := t.draw
  let path := "/api/apps/v2/" ++ workspaceId ++ "/terra-app-" ++ (c.world.ids n).text
  let body := Json.object [("appType", .string App.cbas.appType)]
  c.call ((Address.resolve c.urls.leonardo path).map fun url =>
      { url, method := .post, body := .json body.text })
    (fun reply => (expectSuccess "CBAS app request" reply).map fun _ => ()) t

def appState (c : Client) (workspaceId : String) (app : App) :
    Trace → Except Fault AppState × Trace :=
  let path := "/api/apps/v2/" ++ workspaceId ++ "?includeDeleted=false"
  c.call ((Address.resolve c.urls.leonardo path).map fun url => { url, acceptsJson := true })
    fun reply => (expectJson "app listing" reply).map app.find

/-- Uploads a file of tab-separated values as records of a type. -/
def uploadTsv (c : Client) (wdsUrl workspaceId recordType tsv : String) (t : Trace) :
    Except Fault Json × Trace :=
  let path := "/" ++ workspaceId ++ "/tsv/" ++ recordsVersion ++ "/" ++ recordType
  match appUrl wdsUrl path with
  | .error fault => (.error fault, t)
  | .ok url =>
    match (c.world.files t.actions tsv).openBytes with
    | .error fault => (.error fault, t)
    | .ok none =>
      (.error (.http (match (c.authorize { url, method := .post }).prepare with
        | .error trouble => trouble
        | .ok prepared => .unreadBody prepared.url File.folderText)), t)
    | .ok (some bytes) =>
      c.call (.ok { url, method := .post, body := .file "records" (fileName tsv) bytes })
        (expectJson "TSV upload") t

/-- Writes a record, in place of any earlier one under its type and identifier. -/
def putRecord (c : Client) (wdsUrl workspaceId : String) (record : Record) :
    Trace → Except Fault Unit × Trace :=
  c.call ((appUrl wdsUrl (recordPath workspaceId record)).map fun url =>
      { url, method := .put, body := .json record.requestBody.text })
    fun reply => (expectSuccess "record write" reply).map fun _ => ()

/-- Reads back the record under a record's type and identifier. -/
def getRecord (c : Client) (wdsUrl workspaceId : String) (record : Record) :
    Trace → Except Fault Json × Trace :=
  c.call ((appUrl wdsUrl (recordPath workspaceId record)).map fun url => { url })
    (expectJson "record read")

/-- Submits the workflow that a file asks for. -/
def submitWorkflow (c : Client) (cbasUrl request : String) (t : Trace) :
    Except Fault Json × Trace :=
  match (c.world.files t.actions request).readText with
  | .error why => (.error (.io why), t)
  | .ok body =>
    c.call ((appUrl cbasUrl "/api/batch/v1/run_sets").map fun url =>
        { url, method := .post, acceptsJson := true, body := .json body })
      (expectJson "workflow submission") t

end Client
end Shakedown.Load
