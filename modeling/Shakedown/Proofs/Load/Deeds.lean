import Shakedown.Load.Run
import Shakedown.Proofs.Request

/-!
What a load run does, told in full.

The actions of a run say what was sent, but not what for or what came of it. A deed says both: its
request belongs to an errand, and comes with the exchange that followed. A trace goes on by deeds if
its new actions are theirs, each request is one that its errand drafts and each exchange is what the
link makes of the request after those sent before it.
-/

namespace Shakedown

/-- The address of an app that is ready. -/
def AppState.url? : AppState → Option String
  | .ready url => some url
  | _ => none

lemma AppState.url?_eq_none {state : AppState} (unready : ∀ url, state ≠ .ready url) :
    state.url? = none := by
  cases state with
  | ready url => exact absurd rfl (unready url)
  | provisioning | missing => rfl

namespace Http.Exchange

def answer? : Exchange → Option Answer
  | .answer a => some a
  | .unreachable _ => none

/-- The reply that came through in whole. -/
def reply? (x : Exchange) : Option Reply := x.answer?.bind fun a => a.reply.toOption

/-- The reply, if it is a success. -/
def success? (x : Exchange) : Option Reply := x.reply?.filter Reply.isSuccess

/-- The JSON of a reply of success. -/
def json? (x : Exchange) : Option Json := x.success?.bind fun reply => reply.json.toOption

/-- The identifier of the workspace that a reply of success tells of. -/
def created? (x : Exchange) : Option String := x.json?.bind fun created =>
  created.text? "workspaceId"

/-- The state of an app that a reply of success tells of. -/
def appState? (app : App) (x : Exchange) : Option AppState := x.json?.map app.find

end Http.Exchange

namespace Load

/-- What an upload brings: the data of the load itself, or those of the workflow. -/
inductive Cargo where
  | data
  | workflow
deriving DecidableEq

namespace Cargo

def recordType (s : LoadSettings) : Cargo → String
  | .data => s.uploadRecordType
  | .workflow => s.workflowRecordType

def file (s : LoadSettings) : Cargo → String
  | .data => s.uploadTsv
  | .workflow => s.workflowTsv

end Cargo

/-- What a request is sent for. -/
inductive Errand where
  | probe
  | creation
  | appRequest (workspaceId : String)
  | poll (workspaceId : String) (app : App)
  | upload (workspaceId wdsUrl : String) (cargo : Cargo)
  | write (workspaceId wdsUrl : String) (record : Record)
  | read (workspaceId wdsUrl : String) (record : Record)
  | submission (workspaceId cbasUrl : String)

/-- The workspace that an errand is run for. -/
def Errand.workspace? : Errand → Option String
  | .probe | .creation => none
  | .appRequest id | .poll id _ | .upload id _ _ | .write id _ _ | .read id _ _
  | .submission id _ => some id

/-- The requests that an errand may draft, before the token is put on them. -/
inductive Errand.Drafts (r : Run) : Errand → Http.Request → Prop
  | probe {url : Url}
      (at_url : Address.resolve r.client.urls.workspaceManager "/api/workspaces/v1" = .ok url) :
      Drafts r .probe { url }
  | creation {url : Url} (letters : Fin 5 → Fin 26)
      (at_url : Address.resolve r.client.urls.rawls "/api/workspaces" = .ok url) :
      Drafts r .creation
        { url
          method := .post
          body := .json (Client.creationBody r.credentials.billingProject
            (workspaceName letters)).text }
  | appRequest {id : String} {url : Url} (appId : Uuid)
      (at_url : Address.resolve r.client.urls.leonardo
        ("/api/apps/v2/" ++ id ++ "/terra-app-" ++ appId.text) = .ok url) :
      Drafts r (.appRequest id)
        { url
          method := .post
          body := .json (Json.object [("appType", .string App.cbas.appType)]).text }
  | poll {id : String} {app : App} {url : Url}
      (at_url : Address.resolve r.client.urls.leonardo
        ("/api/apps/v2/" ++ id ++ "?includeDeleted=false") = .ok url) :
      Drafts r (.poll id app) { url, acceptsJson := true }
  | upload {id wdsUrl : String} {cargo : Cargo} {url : Url} (content : List UInt8)
      (at_url : appUrl wdsUrl
        ("/" ++ id ++ "/tsv/" ++ recordsVersion ++ "/" ++ cargo.recordType r.settings) = .ok url) :
      Drafts r (.upload id wdsUrl cargo)
        { url
          method := .post
          body := .file "records" (fileName (cargo.file r.settings)) content }
  | write {id wdsUrl : String} {record : Record} {url : Url}
      (at_url : appUrl wdsUrl (recordPath id record) = .ok url) :
      Drafts r (.write id wdsUrl record)
        { url, method := .put, body := .json record.requestBody.text }
  | read {id wdsUrl : String} {record : Record} {url : Url}
      (at_url : appUrl wdsUrl (recordPath id record) = .ok url) :
      Drafts r (.read id wdsUrl record) { url }
  | submission {id cbasUrl : String} {url : Url} (body : String)
      (at_url : appUrl cbasUrl "/api/batch/v1/run_sets" = .ok url) :
      Drafts r (.submission id cbasUrl)
        { url, method := .post, acceptsJson := true, body := .json body }

/-- The request is one that the errand drafts, with the token on it and prepared. -/
def Errand.Sends (r : Run) (errand : Errand) (request : Http.Request) : Prop :=
  ∃ draft, errand.Drafts r draft ∧ (r.client.authorize draft).prepare = .ok request

def Event.workspaceId : Event → String
  | .created id => id
  | .waiting id _ => id
  | .stepFinished id _ => id

inductive Deed where
  | call (errand : Errand) (request : Http.Request) (exchange : Http.Exchange)
  | slept (seconds : UInt64)
  | announced (event : Event)

namespace Deed

def action : Deed → Action
  | .call _ request _ => .sent request
  | .slept seconds => .slept seconds
  | .announced event => .announced event

def request? : Deed → Option Http.Request
  | .call _ request _ => some request
  | _ => none

def event? : Deed → Option Event
  | .announced event => some event
  | _ => none

/-- The identifier of the workspace that the deed creates. -/
def created? : Deed → Option String
  | .call .creation _ exchange => exchange.created?
  | _ => none

/-- The app that the deed finds ready in a workspace, with its address. -/
def found? : Deed → Option (String × App × String)
  | .call (.poll id app) _ exchange =>
    ((exchange.appState? app).bind AppState.url?).map fun url => (id, app, url)
  | _ => none

/-- The reply to the deed if it uploads the data of a workflow. -/
def workflowData? : Deed → Option Json
  | .call (.upload _ _ .workflow) _ exchange => exchange.json?
  | _ => none

/-- The deed is done for the workspace. -/
def Concerns (id : String) : Deed → Prop
  | .call errand _ _ => errand.workspace? = some id
  | .slept _ => True
  | .announced event => event.workspaceId = id

end Deed

def requestsOf (deeds : List Deed) : List Http.Request := deeds.filterMap Deed.request?

def eventsOf (deeds : List Deed) : List Event := deeds.filterMap Deed.event?

def createdBy (deeds : List Deed) : List String := deeds.filterMap Deed.created?

def foundBy (deeds : List Deed) : List (String × App × String) := deeds.filterMap Deed.found?

def workflowDataBy (deeds : List Deed) : List Json := deeds.filterMap Deed.workflowData?

/-- Each request is sent for its errand, and each exchange is what the link makes of it after the
requests before it. -/
def Faithful (r : Run) : (earlier : List Http.Request) → List Deed → Prop
  | _, [] => True
  | earlier, .call errand request exchange :: later =>
    errand.Sends r request ∧ exchange = r.client.world.link earlier request ∧
      Faithful r (earlier ++ [request]) later
  | earlier, .slept _ :: later => Faithful r earlier later
  | earlier, .announced _ :: later => Faithful r earlier later

/-- The trace goes on by the deeds. -/
structure Run.Goes (r : Run) (t : Trace) (deeds : List Deed) (t' : Trace) : Prop where
  actions_eq : t'.actions = t.actions ++ deeds.map Deed.action
  faithful : Faithful r t.requests deeds

/-- From any trace, an act goes on by deeds that tell what it comes to. -/
def Run.Does {α : Type} (r : Run) (act : Trace → α × Trace) (tells : List Deed → α → Prop) : Prop :=
  ∀ t, ∃ deeds, r.Goes t deeds (act t).2 ∧ tells deeds (act t).1

section Deeds
variable {r : Run} {a b : List Deed}

@[simp] lemma requestsOf_append (a b : List Deed) :
    requestsOf (a ++ b) = requestsOf a ++ requestsOf b := List.filterMap_append

@[simp] lemma eventsOf_append (a b : List Deed) : eventsOf (a ++ b) = eventsOf a ++ eventsOf b :=
  List.filterMap_append

@[simp] lemma createdBy_append (a b : List Deed) : createdBy (a ++ b) = createdBy a ++ createdBy b :=
  List.filterMap_append

@[simp] lemma foundBy_append (a b : List Deed) : foundBy (a ++ b) = foundBy a ++ foundBy b :=
  List.filterMap_append

@[simp] lemma workflowDataBy_append (a b : List Deed) :
    workflowDataBy (a ++ b) = workflowDataBy a ++ workflowDataBy b := List.filterMap_append

lemma faithful_append (earlier : List Http.Request) :
    Faithful r earlier (a ++ b) ↔
      Faithful r earlier a ∧ Faithful r (earlier ++ requestsOf a) b := by
  induction a generalizing earlier with
  | nil => simp [Faithful, requestsOf]
  | cons deed later ih =>
    cases deed with
    | call errand request exchange =>
      have next := ih (earlier ++ [request])
      rw [List.append_assoc] at next
      simp only [List.cons_append, Faithful, next, and_assoc]
      rfl
    | slept seconds => exact ih earlier
    | announced event => exact ih earlier

/-- Whatever is sent is sent for an errand. -/
lemma Faithful.sends {earlier : List Http.Request} (faithful : Faithful r earlier a)
    {errand : Errand} {request : Http.Request} {exchange : Http.Exchange}
    (called : .call errand request exchange ∈ a) : errand.Sends r request := by
  obtain ⟨front, back, rfl⟩ := List.append_of_mem called
  exact ((faithful_append earlier).mp faithful).2.1

/-- A look at the actions finds what a look at the deeds does. -/
lemma filterMap_action {β : Type} {look : Deed → Option β} {glance : Action → Option β}
    (same : ∀ deed, glance deed.action = look deed) (deeds : List Deed) :
    (deeds.map Deed.action).filterMap glance = deeds.filterMap look := by
  rw [List.filterMap_map]
  congr 1
  exact funext same

end Deeds

namespace Run.Goes
variable {r : Run} {t t' t'' : Trace} {a b : List Deed}

lemma requests_eq (goes : r.Goes t a t') : t'.requests = t.requests ++ requestsOf a := by
  rw [Trace.requests, goes.actions_eq, List.filterMap_append]
  exact congrArg (t.requests ++ ·) (filterMap_action (fun deed => by cases deed <;> rfl) a)

lemma events_eq (goes : r.Goes t a t') : t'.events = t.events ++ eventsOf a := by
  rw [Trace.events, goes.actions_eq, List.filterMap_append]
  exact congrArg (t.events ++ ·) (filterMap_action (fun deed => by cases deed <;> rfl) a)

/-- Nothing is done while the actions stay as they are. -/
lemma nothing (still : t'.actions = t.actions) : r.Goes t [] t' :=
  ⟨by rw [still, List.map_nil, List.append_nil], trivial⟩

lemma trans (goes : r.Goes t a t') (on : r.Goes t' b t'') : r.Goes t (a ++ b) t'' where
  actions_eq := by rw [on.actions_eq, goes.actions_eq, List.map_append, List.append_assoc]
  faithful := (faithful_append _).mpr ⟨goes.faithful, goes.requests_eq ▸ on.faithful⟩

lemma announce (event : Event) : r.Goes t [.announced event] (t.announce event) := ⟨rfl, trivial⟩

lemma sleep (seconds : UInt64) : r.Goes t [.slept seconds] (t.sleep seconds) := ⟨rfl, trivial⟩

lemma draw (goes : r.Goes t.draw.2 a t') : r.Goes t a t' := ⟨goes.actions_eq, goes.faithful⟩

end Run.Goes

end Load
end Shakedown
