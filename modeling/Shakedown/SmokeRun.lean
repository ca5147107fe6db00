import Shakedown.Plan
import Shakedown.TokenInfo

/-!
A smoke run: the user token is validated, a plan is made, and its checks are carried out one after
the other through one cache.

A run whose token does not hold carries out no check and announces nothing.
-/

namespace Shakedown

structure CheckResult where
  group : String
  name : String
  description : String
  verdict : Verdict
deriving DecidableEq

/-- The results of a run's checks, in the order in which they were carried out. -/
abbrev Outcome := List CheckResult

namespace Outcome

def count (o : Outcome) (p : Verdict → Bool) : Nat := o.countP fun r => p r.verdict

def failures (o : Outcome) : Nat :=
  o.count fun | .failed _ => true | _ => false

def errors (o : Outcome) : Nat :=
  o.count fun | .errored _ => true | _ => false

def passed (o : Outcome) : Nat := o.count Verdict.isPassed

def wasSuccessful (o : Outcome) : Bool := o.failures = 0 && o.errors = 0

def exitCode (o : Outcome) : Nat := if o.wasSuccessful then 0 else 1

def problems (o : Outcome) : Outcome := o.filter fun r => !r.verdict.isPassed

/-- A count of results that did not pass, unless there are none. -/
def countPart (label : String) (n : Nat) : List String :=
  if n = 0 then [] else [label ++ "=" ++ toString n]

def summary (o : Outcome) : String :=
  if o.wasSuccessful then "OK"
  else "FAILED (" ++
    Text.joinWith ", " (countPart "failures" o.failures ++ countPart "errors" o.errors) ++ ")"

end Outcome

namespace SmokeRun

inductive Event where
  | planned (plan : Plan)
  | finished (result : CheckResult)

/-- What a run leaves: its outcome or what stopped it, what it announced, every call made, and what
it logged. -/
structure Record where
  outcome : Except Fault Outcome
  events : List Event
  calls : List Fetch
  log : List Log.Entry

/-- How far the checks of a run have come. -/
structure Progress where
  results : Outcome := []
  events : List Event := []
  caller : Caller
  log : List Log.Entry := []

/-- Carries out the next check; the identifier it may need is drawn by its place in the run. -/
def Progress.step (settings : Settings) (service : Service) (ids : Nat → Uuid) (p : Progress)
    (item : Group × Check) : Progress :=
  let id := ids p.results.length
  let (verdict, caller) := item.2.run settings service id p.caller
  let result : CheckResult := ⟨item.1.name, item.2.name, item.2.description, verdict⟩
  { results := p.results ++ [result]
    events := p.events ++ [.finished result]
    caller
    log := p.log ++ item.2.log settings service id p.caller ++
      [.finished result.group result.name verdict.label] }

/-- Validates the user token if there is one. -/
def validate (settings : Settings) (service : Service) : Except Fault Unit × List Fetch :=
  match settings.token with
  | some token => TokenInfo.validate service [] settings.tokenInfoUrl token
  | none => (.ok (), [])

/-- What is logged while the user token is validated. -/
def validationLog (settings : Settings) (service : Service) : List Log.Entry :=
  match settings.token with
  | some token => TokenInfo.log service [] settings.tokenInfoUrl token
  | none => []

def run (settings : Settings) (service : Service) (ids : Nat → Uuid) : Record :=
  let log := validationLog settings service
  match validate settings service with
  | (.error fault, calls) => { outcome := .error fault, events := [], calls, log }
  | (.ok (), calls) =>
    let plan := Plan.ofSettings settings
    let start : Progress := {
      events := [.planned plan]
      caller := { calls }
      log := log ++ [.assembled (plan.groups.map Group.name) plan.size] }
    let last := plan.checks.foldl (Progress.step settings service ids) start
    { outcome := .ok last.results, events := last.events, calls := last.caller.calls
      log := last.log }

end SmokeRun
end Shakedown
