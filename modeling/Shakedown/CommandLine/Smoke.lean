import Shakedown.CommandLine.Failure
import Shakedown.Report

/-!
The program that carries out a smoke run.
-/

namespace Shakedown.CommandLine.Smoke

def program : String := "cwds-smoke"

def usage : String := " [OPTIONS] <HOST> [WORKSPACE_ID] [USER_TOKEN]"

/-- The level that a verbosity spells: an integer from 0 to 2, perhaps with a sign and zeros. -/
def level? (value : String) : Option Nat :=
  let (negative, digits) := match value.toList with
    | '-' :: digits => (true, digits)
    | '+' :: digits => (false, digits)
    | digits => (false, digits)
  let level := digits.foldl (fun n c => n * 10 + (c.toNat - 48)) 0
  if digits = [] || !digits.all Char.isDigit || 2 < level || (negative && level ≠ 0) then none
  else some level

def grammar : Grammar where
  options := [
    { long := "orchestration-host" },
    { long := "workspace-namespace" },
    { long := "workspace-name" },
    { long := "verbosity", short := some 'v', accepts := fun v => (level? v).isSome },
    { long := "token-info-url" }]
  positionals := 3

def verbosityOf (a : Arguments) : Verbosity :=
  match (a.value? "verbosity").bind level? with
  | some 0 => .quiet
  | some 2 => .verbose
  | _ => .minimal

/-- The settings that arguments give. -/
def settings (a : Arguments) : Settings :=
  let standard : Settings := { host := a.positionals[0]?.getD "" }
  { standard with
    workspaceId := a.positionals[1]?
    userToken := a.positionals[2]?
    orchestration := {
      host := a.value? "orchestration-host"
      workspaceNamespace := a.value? "workspace-namespace"
      workspaceName := a.value? "workspace-name" }
    verbosity := verbosityOf a
    tokenInfoUrl := (a.value? "token-info-url").getD standard.tokenInfoUrl }

/-- What the program leaves for a run that has taken some time, its log apart. -/
def report (verbosity : Verbosity) (coloured : Bool) (run : SmokeRun.Record) (nanoseconds : Nat) :
    Output :=
  let reporter : Reporter := { verbosity, coloured }
  let out := reporter.runText run nanoseconds
  match run.outcome with
  | .ok outcome => { exitCode := outcome.exitCode, out }
  | .error fault => .ofFault coloured out fault

/-- What the program leaves for a run, with its log written as it went on. -/
def reportLogged (subscriber : Log.Subscriber) (settings : Settings) (coloured : Bool)
    (run : SmokeRun.Record) (nanoseconds : Nat) : Output :=
  let output := report settings.verbosity coloured run nanoseconds
  let log := .configured settings.host settings.verbosity :: run.log
  { output with err := subscriber.writeAll 0 log ++ output.err }

/-- The settings that arguments give, or what the program leaves for others. -/
def readSettings (arguments : List String) : Except Output Settings :=
  match Arguments.read grammar 1 arguments with
  | .error stop => .error (.ofStop program usage stop)
  | .ok a => .ok (settings a)

/-- What the program leaves where nothing is logged. -/
def run (arguments : List String) (coloured : Bool) (service : Service) (ids : Nat → Uuid)
    (nanoseconds : Nat) : Output :=
  match readSettings arguments with
  | .error output => output
  | .ok settings =>
    report settings.verbosity coloured (SmokeRun.run settings service ids) nanoseconds

def runLogged (subscriber : Log.Subscriber) (arguments : List String) (coloured : Bool)
    (service : Service) (ids : Nat → Uuid) (nanoseconds : Nat) : Output :=
  match readSettings arguments with
  | .error output => output
  | .ok settings =>
    reportLogged subscriber settings coloured (SmokeRun.run settings service ids) nanoseconds

end Shakedown.CommandLine.Smoke
