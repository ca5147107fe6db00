import Shakedown.Binary64
import Shakedown.SmokeRun
import Shakedown.Text.Style

/-!
What a smoke run prints: the plan's notes, progress while checks are carried out, a block for every
check that did not pass, and a summary.

A quiet report leaves out progress and blocks. Progress is a symbol for each check in a minimal
report and a line for each in a verbose one.
-/

namespace Shakedown

structure Reporter where
  verbosity : Verbosity
  coloured : Bool
  /-- Whether any progress has been written. -/
  started : Bool := false

namespace Reporter

def line (text : String) : String := text ++ "\n"

def heavyRule : String := String.ofList (List.replicate 70 '=')

def lightRule : String := String.ofList (List.replicate 70 '-')

def verdictColour : Verdict → Text.Colour
  | .passed => .green
  | .failed _ => .red
  | .errored _ => .yellow

/-- The text that announces a plan. -/
def planned (notes : List String) : String := String.join (notes.map line)

/-- The progress that a finished check brings. -/
def progress (r : Reporter) (result : CheckResult) : String :=
  let paint (text : String) := (verdictColour result.verdict).apply r.coloured text
  match r.verbosity with
  | .quiet => ""
  | .minimal => paint result.verdict.symbol.toString
  | .verbose => line (result.description ++ " ... " ++ paint result.verdict.label)

def checkFinished (r : Reporter) (result : CheckResult) : String × Reporter :=
  (r.progress result, { r with started := r.started || r.verbosity ≠ .quiet })

/-- The block of a check that did not pass; nothing for one that did. -/
def details (result : CheckResult) : String :=
  match result.verdict.message with
  | none => ""
  | some message =>
    line heavyRule ++
      line (result.verdict.label ++ ": " ++ result.name ++ " (" ++ result.group ++ ")") ++
      line result.description ++ line lightRule ++ line message ++ line ""

/-- Seconds of a duration in nanoseconds as a binary64 number: the whole ones and the fraction are
rounded one by one before they are added. -/
def seconds (nanoseconds : Nat) : Option Binary64 := do
  let whole ← Binary64.nearest? false (nanoseconds / 1000000000) 1
  let fraction ← (Binary64.ofInt (nanoseconds % 1000000000)).div? (Binary64.ofInt 1000000000)
  whole.addMagnitudes? fraction

def secondsText (nanoseconds : Nat) : String :=
  match seconds nanoseconds with
  | some x => x.toFixed 3 ++ "s"
  | none => "infs"

def countText (tests : Nat) : String :=
  "Ran " ++ toString tests ++ " test" ++ (if tests = 1 then "" else "s") ++ " in "

/-- The end of a report. -/
def tail (r : Reporter) (outcome : Outcome) (nanoseconds : Nat) : String :=
  let style : Text.Style := ⟨some (if outcome.wasSuccessful then .green else .red), true⟩
  line lightRule ++ line (countText outcome.length ++ secondsText nanoseconds) ++ line "" ++
    line (style.apply r.coloured outcome.summary)

/-- What is written once all checks are finished. -/
def finish (r : Reporter) (outcome : Outcome) (nanoseconds : Nat) : String :=
  (if r.verbosity = .minimal && r.started then line "" else "") ++
    (if r.verbosity = .quiet then "" else String.join (outcome.problems.map details)) ++
    r.tail outcome nanoseconds

/-- Everything written for finished checks, and the reporter after it. -/
def checksFinished (r : Reporter) : List CheckResult → String × Reporter
  | [] => ("", r)
  | result :: rest =>
    let (text, next) := r.checkFinished result
    let (more, last) := checksFinished next rest
    (text ++ more, last)

/-- The whole report of a run that carried out its checks. -/
def report (r : Reporter) (notes : List String) (outcome : Outcome) (nanoseconds : Nat) : String :=
  let (text, last) := r.checksFinished outcome
  planned notes ++ text ++ last.finish outcome nanoseconds

/-- What is written for the events of a run, and the reporter after them. -/
def follow (r : Reporter) : List SmokeRun.Event → String × Reporter
  | [] => ("", r)
  | .planned plan :: rest =>
    let (more, last) := follow r rest
    (planned (plan.notes.map Note.text) ++ more, last)
  | .finished result :: rest =>
    let (text, next) := r.checkFinished result
    let (more, last) := follow next rest
    (text ++ more, last)

/-- What is written in the course of a run, which may have been stopped. -/
def runText (r : Reporter) (run : SmokeRun.Record) (nanoseconds : Nat) : String :=
  let (text, last) := r.follow run.events
  match run.outcome with
  | .ok outcome => text ++ last.finish outcome nanoseconds
  | .error _ => text

example : secondsText 59999500000 = "59.999s" ∧ secondsText 2500000 = "0.003s" := by
  decide +kernel

end Reporter
end Shakedown
