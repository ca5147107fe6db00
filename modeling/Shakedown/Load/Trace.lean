import Shakedown.Http.Link
import Shakedown.Load.App

/-!
What happens in the course of a load run, in order: requests sent, delays slept, and events
announced.
-/

namespace Shakedown.Load

inductive Step where
  | cbasRequest
  | wdsReady
  | tsvUpload
  | recordRoundTrip
  | workflowSubmission
deriving DecidableEq, Repr

def Step.name : Step → String
  | .cbasRequest => "cbas request"
  | .wdsReady => "wds ready"
  | .tsvUpload => "tsv upload"
  | .recordRoundTrip => "record round trip"
  | .workflowSubmission => "workflow submission"

/-- How one step for a workspace ended: what came of it, or the message of what went wrong. -/
structure StepOutcome where
  step : Step
  result : Except String String

def StepOutcome.succeeded (o : StepOutcome) : Bool :=
  match o.result with
  | .ok _ => true
  | .error _ => false

def StepOutcome.of (step : Step) (result : Except Fault String) : StepOutcome :=
  ⟨step, result.mapError Fault.message⟩

inductive Event where
  | created (workspaceId : String)
  | waiting (workspaceId : String) (app : App)
  | stepFinished (workspaceId : String) (outcome : StepOutcome)

inductive Action where
  | sent (request : Http.Request)
  | slept (seconds : UInt64)
  | announced (event : Event)

/-- All that has happened, oldest first, and how many random values have been drawn. -/
structure Trace where
  actions : List Action := []
  drawn : Nat := 0

namespace Trace

def requests (t : Trace) : List Http.Request :=
  t.actions.filterMap fun | .sent r => some r | _ => none

def delays (t : Trace) : List UInt64 :=
  t.actions.filterMap fun | .slept s => some s | _ => none

def events (t : Trace) : List Event :=
  t.actions.filterMap fun | .announced e => some e | _ => none

def add (t : Trace) (a : Action) : Trace := { t with actions := t.actions ++ [a] }

def announce (t : Trace) (e : Event) : Trace := t.add (.announced e)

def sleep (t : Trace) (seconds : UInt64) : Trace := t.add (.slept seconds)

/-- The number of the next random value, and the trace with it drawn. -/
def draw (t : Trace) : Nat × Trace := (t.drawn, { t with drawn := t.drawn + 1 })

/-- Sends a request over a link unless it cannot be prepared. -/
def send (link : Http.Link) (t : Trace) (r : Http.Request) : Except Fault Http.Answer × Trace :=
  let answer := (link.perform t.requests r).mapError Fault.http
  match r.prepare with
  | .ok prepared => (answer, t.add (.sent prepared))
  | .error _ => (answer, t)

end Trace
end Shakedown.Load
