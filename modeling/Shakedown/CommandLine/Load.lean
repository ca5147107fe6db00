import Shakedown.CommandLine.Failure
import Shakedown.Load.Run

/-!
The program that carries out a load run.
-/

namespace Shakedown.CommandLine.Load

open Shakedown.Load

def program : String := "cwds-load"

def usage : String := " [OPTIONS]"

def grammar : Grammar where
  options := [{ long := "config", short := some 'c', accepts := fun path => path ≠ "" }]
  positionals := 0

def line (text : String) : String := text ++ "\n"

section
variable (coloured : Bool)

def tick : String := Text.Colour.green.apply coloured "✓"

def cross : String := Text.Colour.red.apply coloured "×"

def startLine (r : Run) : String :=
  let paint := Text.Colour.cyan.apply coloured
  line ("Creating " ++ paint (toString r.settings.workspaceCount) ++ " workspace(s) in " ++
    paint r.credentials.billingProject ++ " on " ++ paint r.client.urls.rawls)

/-- What is written for an event; nothing for a wait. -/
def eventText : Event → String
  | .created workspaceId => line (tick coloured ++ " Created workspace " ++ workspaceId)
  | .waiting _ _ => ""
  | .stepFinished workspaceId outcome =>
    match outcome.result with
    | .ok _ => line (tick coloured ++ " " ++ workspaceId ++ " " ++ outcome.step.name)
    | .error message =>
      line (cross coloured ++ " " ++ workspaceId ++ " " ++ outcome.step.name ++ ": " ++ message)

def workspaceLine (w : WorkspaceReport) : String :=
  let mark := if w.succeeded then tick coloured else cross coloured
  let passed := (w.steps.filter StepOutcome.succeeded).length
  line ("  " ++ mark ++ " " ++ w.workspaceId ++ " (" ++ toString passed ++ "/" ++
    toString w.steps.length ++ " steps)")

def probeText (status : Option Nat) : String :=
  match status with
  | some status => Text.Colour.cyan.apply coloured (toString status)
  | none => Text.Colour.yellow.apply coloured "unreachable"

def summary (report : Report) : String :=
  line "" ++ line (Text.Style.apply { bold := true } coloured "LOAD TEST COMPLETE.") ++
    line ("  Workspace Manager probe: " ++ probeText coloured report.probeStatus) ++
    String.join (report.creationFailures.map fun failure =>
      line ("  " ++ cross coloured ++ " workspace creation: " ++ failure)) ++
    String.join (report.workspaces.map (workspaceLine coloured))

/-- What the program leaves for a run. -/
def runWith (r : Run) : Output :=
  let (report, trace) := r.run
  { exitCode := if report.succeeded then 0 else 1
    out := startLine coloured r ++ String.join (trace.events.map (eventText coloured)) ++
      summary coloured report }

/-- The file that arguments name, if they do. -/
def settingsFile? (arguments : List String) : Option String :=
  match Arguments.read grammar 0 arguments with
  | .ok a => a.value? "config"
  | .error _ => none

def run (arguments : List String) (environment : String → Option String) (world : World) :
    Output :=
  match Arguments.read grammar 0 arguments with
  | .error stop => .ofStop program usage stop
  | .ok a =>
    match Credentials.ofEnvironment environment with
    | .error fault => .ofFault coloured "" fault
    | .ok credentials =>
      match LoadSettings.load (a.value? "config") (world.files []) with
      | .error fault => .ofFault coloured "" fault
      | .ok settings =>
        let client : Client := ⟨world, ServiceUrls.ofBee credentials.bee, credentials.token⟩
        runWith coloured { client, settings, credentials }

end

end Shakedown.CommandLine.Load
