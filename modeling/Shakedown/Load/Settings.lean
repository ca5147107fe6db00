import Shakedown.Files
import Shakedown.Load.Backoff
import Shakedown.Toml.Reader

/-!
Settings of a load run, from a TOML file.

Every setting has a default, and keys that name no setting are passed over. How to wait for apps
may be given as a table or as a list of its settings in order.
-/

namespace Shakedown

structure LoadSettings where
  workspaceCount : UInt32 := 1
  enableCbas : Bool := false
  wdsUpload : Bool := true
  cbasSubmitWorkflow : Bool := false
  uploadTsv : String := "resources/test.tsv"
  uploadRecordType : String := "test"
  workflowTsv : String := "resources/sraloadtest.tsv"
  workflowRecordType : String := "sraloadtest"
  workflowRequest : String := "resources/assemble_refbased.json"
  recordRoundtrip : Bool := false
  readiness : Backoff := {}
deriving DecidableEq

namespace LoadSettings

/-- The files that a run reads. -/
def files (s : LoadSettings) : List String := [s.uploadTsv, s.workflowTsv, s.workflowRequest]

def wordOf? (limit : Nat) : Toml → Option Nat
  | .integer i => if 0 ≤ i ∧ i < limit then some i.toNat else none
  | _ => none

def count? (v : Toml) : Option UInt32 := (wordOf? UInt32.size v).map UInt32.ofNat

def seconds? (v : Toml) : Option UInt64 := (wordOf? UInt64.size v).map UInt64.ofNat

def flag? : Toml → Option Bool
  | .boolean b => some b
  | _ => none

def text? : Toml → Option String
  | .string s => some s
  | _ => none

/-- The setting under a key: its default if the key is not there, nothing if its value is not of
the setting's kind. -/
def setting {α : Type} (members : List (String × Toml)) (key : String) (read : Toml → Option α)
    (default : α) : Option α :=
  match members.lookup key with
  | some v => read v
  | none => some default

/-- The setting at the front of a list, and the rest of the list. -/
def nextSetting {α : Type} (items : List Toml) (read : Toml → Option α) (default : α) :
    Option (α × List Toml) :=
  match items with
  | v :: rest => (read v).map (·, rest)
  | [] => some (default, [])

/-- Reads how to wait for apps. A date in its place says nothing. -/
def backoff? : Toml → Option Backoff
  | .table members => do
    let standard : Backoff := {}
    some {
      initialDelay := ← setting members "initial_delay_secs" seconds? standard.initialDelay
      maxDelay := ← setting members "max_delay_secs" seconds? standard.maxDelay
      timeout := ← setting members "timeout_secs" seconds? standard.timeout }
  | .array items => do
    let standard : Backoff := {}
    let (initialDelay, items) ← nextSetting items seconds? standard.initialDelay
    let (maxDelay, items) ← nextSetting items seconds? standard.maxDelay
    let (timeout, _) ← nextSetting items seconds? standard.timeout
    some { initialDelay, maxDelay, timeout }
  | .moment => some {}
  | _ => none

/-- The settings that the table of a document gives. -/
def ofMembers? (members : List (String × Toml)) : Option LoadSettings := do
  let standard : LoadSettings := {}
  some {
    workspaceCount := ← setting members "workspace_count" count? standard.workspaceCount
    enableCbas := ← setting members "enable_cbas" flag? standard.enableCbas
    wdsUpload := ← setting members "wds_upload" flag? standard.wdsUpload
    cbasSubmitWorkflow :=
      ← setting members "cbas_submit_workflow" flag? standard.cbasSubmitWorkflow
    uploadTsv := ← setting members "upload_tsv" text? standard.uploadTsv
    uploadRecordType := ← setting members "upload_record_type" text? standard.uploadRecordType
    workflowTsv := ← setting members "workflow_tsv" text? standard.workflowTsv
    workflowRecordType :=
      ← setting members "workflow_record_type" text? standard.workflowRecordType
    workflowRequest := ← setting members "workflow_request" text? standard.workflowRequest
    recordRoundtrip := ← setting members "record_roundtrip" flag? standard.recordRoundtrip
    readiness := ← setting members "readiness" backoff? standard.readiness }

def unreadable (path : String) : Fault :=
  .config ("failed to parse " ++ path ++ ": no table of load settings")

/-- Loads the settings of a file, or the defaults if none is named. -/
def load (path : Option String) (files : Files) : Except Fault LoadSettings :=
  match path with
  | none => .ok {}
  | some path =>
    match (files path).readText with
    | .error why => .error (.config ("failed to read " ++ path ++ ": " ++ why))
    | .ok text =>
      match (Toml.read text).bind ofMembers? with
      | none => .error (unreadable path)
      | some settings => settings.readiness.validate.map fun _ => settings

end LoadSettings
end Shakedown
