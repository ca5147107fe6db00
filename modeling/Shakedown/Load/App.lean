import Shakedown.Json.Basic

/-!
Apps of a workspace, as a listing tells of them.

An entry of the listing counts for an app if it has the app's type and an address under the app's
key; the first one that does decides.
-/

namespace Shakedown

inductive App where
  | wds
  | cbas
deriving DecidableEq, Repr

inductive AppState where
  | ready (url : String)
  | provisioning
  | missing
deriving DecidableEq

namespace App

/-- The key of the app's address in a listing. -/
def proxyKey : App → String
  | .wds => "wds"
  | .cbas => "cbas"

def appType : App → String
  | .wds => "WDS"
  | .cbas => "CROMWELL"

/-- The address that an entry gives for the app, if the entry counts for it. -/
def proxyUrl? (app : App) (entry : Json) : Option String :=
  if entry.text? "appType" = some app.appType then
    (entry.get? "proxyUrls").bind fun urls => urls.text? app.proxyKey
  else none

/-- The state of the app that an entry tells of, if it counts for it. -/
def entryState? (app : App) (entry : Json) : Option AppState :=
  (app.proxyUrl? entry).map fun url =>
    if entry.text? "status" = some "PROVISIONING" then .provisioning else .ready url

def find (app : App) (listing : Json) : AppState :=
  ((listing.list?.getD []).findSome? app.entryState?).getD .missing

end App
end Shakedown
