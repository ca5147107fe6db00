import Shakedown.Load.Client
import Shakedown.Load.Credentials
import Shakedown.Load.Settings
import Shakedown.Load.Wait
import Shakedown.Record.Probe

/-!
A load run: workspaces are created, and then each of them is put to use in turn.

A step that fails for one workspace stops neither its other steps nor those of other workspaces;
only a workspace whose data service does not come up is left alone.
-/

namespace Shakedown.Load

structure WorkspaceReport where
  workspaceId : String
  steps : List StepOutcome

def WorkspaceReport.succeeded (r : WorkspaceReport) : Bool := r.steps.all StepOutcome.succeeded

structure Report where
  probeStatus : Option Nat := none
  creationFailures : List String := []
  workspaces : List WorkspaceReport := []

def Report.succeeded (r : Report) : Bool :=
  r.creationFailures.isEmpty && r.workspaces.all WorkspaceReport.succeeded

structure Run where
  client : Client
  settings : LoadSettings
  credentials : Credentials

namespace Run

/-- Announces a finished step and puts it after the earlier ones. -/
def finishStep (workspaceId : String) (step : Step) (result : Except Fault String)
    (steps : List StepOutcome) (t : Trace) : List StepOutcome × Trace :=
  let outcome := StepOutcome.of step result
  (steps ++ [outcome], t.announce (.stepFinished workspaceId outcome))

/-- Waits until an app of a workspace is up, and gives its address. -/
def waitFor (r : Run) (workspaceId : String) (app : App) (t : Trace) :
    Except Fault String × Trace :=
  let waited := app.wait workspaceId r.settings.readiness (fun s t => t.sleep s)
    (r.client.appState workspaceId app) t
  (waited.result, waited.state)

def requestApp (r : Run) (workspaceId : String) (t : Trace) : List StepOutcome × Trace :=
  if r.settings.enableCbas then
    let (result, t) := r.client.requestCbas workspaceId t
    finishStep workspaceId .cbasRequest (result.map fun _ => "requested") [] t
  else ([], t)

/-- Creates `count` more workspaces, and requests an app in each if the settings say so. -/
def createWorkspaces (r : Run) : (count : Nat) → Report → Trace → Report × Trace
  | 0, report, t => (report, t)
  | count + 1, report, t =>
    match r.client.createWorkspace r.credentials.billingProject t with
    | (.ok workspaceId, t) =>
      let (steps, t) := r.requestApp workspaceId (t.announce (.created workspaceId))
      createWorkspaces r count
        { report with workspaces := report.workspaces ++ [⟨workspaceId, steps⟩] } t
    | (.error fault, t) =>
      createWorkspaces r count
        { report with creationFailures := report.creationFailures ++ [fault.message] } t

/-- What a comparison of a record with the one read back comes to. -/
def judgeRoundTrip (record : Record) (retrieved : Json) : Except Fault String :=
  match record.mismatches retrieved with
  | [] => .ok (toString record.attributes.length ++ " attributes matched")
  | mismatches => .error (.unexpectedStatus "record round trip" 200
      (Text.joinWith "; " (mismatches.map Mismatch.text)))

/-- Writes a probe record and reads it back. -/
def roundTrip (r : Run) (wdsUrl workspaceId : String) (t : Trace) : Except Fault String × Trace :=
  let (n, t) := t.draw
  let record := Record.probe "smoke_probe" (r.client.world.ids n).text
  match r.client.putRecord wdsUrl workspaceId record t with
  | (.error fault, t) => (.error fault, t)
  | (.ok (), t) =>
    let (retrieved, t) := r.client.getRecord wdsUrl workspaceId record t
    (retrieved.bind (judgeRoundTrip record), t)

/-- The identifier of a run set, or all of the reply if it holds none. -/
def submissionDetail (submitted : Json) : String :=
  (submitted.text? "run_set_id").getD submitted.text

/-- Uploads the workflow's data and submits it. -/
def submit (r : Run) (wdsUrl workspaceId : String) (t : Trace) : Except Fault String × Trace :=
  match r.client.uploadTsv wdsUrl workspaceId r.settings.workflowRecordType
      r.settings.workflowTsv t with
  | (.error fault, t) => (.error fault, t)
  | (.ok _, t) =>
    match r.waitFor workspaceId .cbas (t.announce (.waiting workspaceId .cbas)) with
    | (.error fault, t) => (.error fault, t)
    | (.ok cbasUrl, t) =>
      let (submitted, t) := r.client.submitWorkflow cbasUrl r.settings.workflowRequest t
      (submitted.map submissionDetail, t)

/-- Carries out a step if the settings ask for it. -/
def step (wanted : Bool) (workspaceId : String) (kind : Step)
    (act : Trace → Except Fault String × Trace) (steps : List StepOutcome) (t : Trace) :
    List StepOutcome × Trace :=
  if wanted then
    let (result, t) := act t
    finishStep workspaceId kind result steps t
  else (steps, t)

def upload (r : Run) (wdsUrl workspaceId : String) (t : Trace) : Except Fault String × Trace :=
  let (result, t) := r.client.uploadTsv wdsUrl workspaceId r.settings.uploadRecordType
    r.settings.uploadTsv t
  (result.map Json.text, t)

def needsWds (s : LoadSettings) : Bool := s.wdsUpload || s.recordRoundtrip || s.cbasSubmitWorkflow

/-- Puts a workspace to use, after the steps already taken for it. -/
def exercise (r : Run) (workspaceId : String) (steps : List StepOutcome) (t : Trace) :
    List StepOutcome × Trace :=
  if !needsWds r.settings then (steps, t)
  else
    match r.waitFor workspaceId .wds (t.announce (.waiting workspaceId .wds)) with
    | (.error fault, t) => finishStep workspaceId .wdsReady (.error fault) steps t
    | (.ok wdsUrl, t) =>
      let (steps, t) :=
        step r.settings.wdsUpload workspaceId .tsvUpload (r.upload wdsUrl workspaceId) steps t
      let (steps, t) := step r.settings.recordRoundtrip workspaceId .recordRoundTrip
        (r.roundTrip wdsUrl workspaceId) steps t
      step r.settings.cbasSubmitWorkflow workspaceId .workflowSubmission
        (r.submit wdsUrl workspaceId) steps t

/-- Puts workspaces to use one after the other. -/
def exerciseAll (r : Run) : List WorkspaceReport → Trace → List WorkspaceReport × Trace
  | [], t => ([], t)
  | w :: rest, t =>
    let (steps, t) := r.exercise w.workspaceId w.steps t
    let (reports, t) := exerciseAll r rest t
    (⟨w.workspaceId, steps⟩ :: reports, t)

def run (r : Run) : Report × Trace :=
  let (status, t) := r.client.probe {}
  let (created, t) :=
    r.createWorkspaces r.settings.workspaceCount.toNat { probeStatus := status.toOption } t
  let (workspaces, t) := r.exerciseAll created.workspaces t
  ({ created with workspaces }, t)

end Run
end Shakedown.Load
