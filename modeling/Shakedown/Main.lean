import Shakedown.CommandLine.Load
import Shakedown.CommandLine.Smoke

/-!
The two programs on a real machine. The first argument names the program, the others are its own.

There is no network below them here: every request ends as it does where no connection comes about.
The log of a smoke run has its standard subscriber, and is not asked for more in the environment. A
load run writes its report alone, without the warnings that it logs and the spinner it shows.
-/

namespace Shakedown.CommandLine

/-- The values of the environment's variables with these names. -/
def readEnvironment (names : List String) : IO (String → Option String) := do
  let values ← names.filterMapM fun name => do
    return (← IO.getEnv name).map fun value => (name, value)
  return fun name => values.lookup name

/-- A file with its name; one that cannot be read counts as missing. -/
def readFile (name : String) : IO (String × File) := do
  try
    return (name, .content (← IO.FS.readBinFile name).toList)
  catch
    | .inappropriateType .. => return (name, .folder)
    | _ => return (name, .missing)

def readFiles (names : List String) : IO Files := do
  let files ← names.mapM readFile
  return fun name => (files.lookup name).getD .missing

def randomNat (bytes : USize) : IO Nat := do
  return (← IO.getRandomBytes bytes).toList.foldl (fun n b => n * 256 + b.toNat) 0

/-- Identifiers that all differ, from one random start. -/
def randomIds : IO (Nat → Uuid) := do
  let start ← randomNat 16
  return fun n => Uuid.ofRandom (BitVec.ofNat 128 (start + n))

/-- Five letters for each of the first workspaces. -/
def randomLetters : IO (Nat → Fin 5 → Fin 26) := do
  let start ← randomNat 16
  return fun n i => Fin.ofNat 26 ((start + n) / Nat.pow 26 i)

def runSmoke (coloured : Bool) (arguments : List String) : IO Output := do
  match Smoke.readSettings arguments with
  | .error output => return output
  | .ok settings =>
    let ids ← randomIds
    let start ← IO.monoNanosNow
    let run ← IO.lazyPure fun _ => SmokeRun.run settings Http.Link.down.service ids
    let finish ← IO.monoNanosNow
    let subscriber := Log.Subscriber.standard Log.plainLine
    return Smoke.reportLogged subscriber settings coloured run (finish - start)

def runLoad (coloured : Bool) (arguments : List String) : IO Output := do
  let environment ← readEnvironment Credentials.names
  let config := Load.settingsFile? arguments
  let configFiles ← readFiles config.toList
  let named := match LoadSettings.load config configFiles with
    | .ok settings => settings.files
    | .error _ => []
  let files ← readFiles (config.toList ++ named)
  return Load.run coloured arguments environment
    ⟨Http.Link.down, files, ← randomIds, ← randomLetters⟩

/-- Writes what a program leaves and hands its exit code on. -/
def write (output : Output) : IO UInt32 := do
  (← IO.getStdout).putStr output.out
  (← IO.getStderr).putStr output.err
  return output.exitCode.toUInt32

/-- What is left where no program is named. -/
def usageOfBoth : Output :=
  { exitCode := 2, err := "Usage: " ++ Smoke.program ++ Smoke.usage ++ "\n       " ++
      Load.program ++ Load.usage ++ "\n" }

/-- Carries out the program that the first argument names. -/
def runNamed (arguments : List String) : IO Output := do
  let environment ← readEnvironment Text.colourVariables
  let coloured := Text.coloursWanted environment (← (← IO.getStdout).isTty)
  match arguments with
  | [] => return usageOfBoth
  | program :: rest =>
    if program = Smoke.program then runSmoke coloured rest
    else if program = Load.program then runLoad coloured rest
    else return usageOfBoth

end Shakedown.CommandLine

def main (arguments : List String) : IO UInt32 := do
  Shakedown.CommandLine.write (← Shakedown.CommandLine.runNamed arguments)
