import Shakedown.Load.App
import Shakedown.Load.Backoff

/-!
Waiting for an app to come up.

The app's state is polled until it is ready, a poll fails or the timeout is used up. The time
waited is the sum of the delays between polls; the last one is cut so that the sum never passes
the timeout.
-/

namespace Shakedown.App

/-- How a wait ended, each delay it slept, and the state it left behind. -/
structure Waited (σ : Type) where
  result : Except Fault String
  slept : List UInt64
  polls : Nat
  state : σ

variable {σ : Type}

/-- Puts an earlier poll and the delay after it before a wait. -/
def Waited.after (delay : UInt64) (w : Waited σ) : Waited σ :=
  { w with slept := delay :: w.slept, polls := w.polls + 1 }

def notReady (app : App) (workspaceId : String) (waited : UInt64) : Fault :=
  .notReady app.proxyKey workspaceId waited.toNat

theorem remaining_lt {timeout waited delay : UInt64} (positive : 1 ≤ delay.toNat)
    (inTime : waited < timeout) :
    (timeout - (waited + min delay (timeout - waited))).toNat < (timeout - waited).toNat := by
  have hw : waited.toNat < timeout.toNat := UInt64.lt_iff_toNat_lt.1 inTime
  have htop := timeout.toNat_lt_size
  have hsub := Seconds.toNat_sub (Nat.le_of_lt hw)
  have hmin := Seconds.toNat_min delay (timeout - waited)
  have hadd : (waited + min delay (timeout - waited)).toNat =
      waited.toNat + (min delay (timeout - waited)).toNat := Seconds.toNat_add (by omega)
  rw [Seconds.toNat_sub (by omega), hadd, hsub]
  omega

/-- Waits on, `waited` seconds having gone by in delays. -/
def waitFrom (app : App) (workspaceId : String) (b : Backoff)
    (sleep : UInt64 → σ → σ) (poll : σ → Except Fault AppState × σ)
    (attempt : UInt32) (waited : UInt64) (state : σ) : Waited σ :=
  match poll state with
  | (.error fault, next) => ⟨.error fault, [], 1, next⟩
  | (.ok (.ready url), next) => ⟨.ok url, [], 1, next⟩
  | (.ok _, next) =>
    if _h : waited < b.timeout then
      let delay := min (b.delay attempt) (b.timeout - waited)
      (waitFrom app workspaceId b sleep poll (attempt + 1) (waited + delay)
        (sleep delay next)).after delay
    else ⟨.error (notReady app workspaceId waited), [], 1, next⟩
termination_by (b.timeout - waited).toNat
decreasing_by exact remaining_lt (b.one_le_delay attempt) _h

/-- Waits from the start. `sleep` and `poll` act on a state of the caller's. -/
def wait (app : App) (workspaceId : String) (b : Backoff)
    (sleep : UInt64 → σ → σ) (poll : σ → Except Fault AppState × σ) (state : σ) : Waited σ :=
  waitFrom app workspaceId b sleep poll 0 0 state

/-- Waits along a script, in which poll number `i` answers `script i`. -/
def waitScript (app : App) (workspaceId : String) (b : Backoff)
    (script : Nat → Except Fault AppState) : Waited Nat :=
  wait app workspaceId b (fun _ i => i) (fun i => (script i, i + 1)) 0

end Shakedown.App
