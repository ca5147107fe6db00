import Shakedown.Fault
import Shakedown.Load.Seconds

/-!
How long to wait between polls.

A delay is twice the one before it up to a maximum, and at least one second.
-/

namespace Shakedown

/-- Delays and timeout in seconds. -/
structure Backoff where
  initialDelay : UInt64 := 10
  maxDelay : UInt64 := 60
  timeout : UInt64 := 600
deriving DecidableEq

namespace Backoff

/-- Two to the power of an attempt, or the largest word. -/
def doubling (attempt : UInt32) : UInt64 :=
  if attempt < 64 then 1 <<< attempt.toUInt64 else Seconds.largest

/-- The delay after poll number `attempt`, the first of which is number 0. -/
def delay (b : Backoff) (attempt : UInt32) : UInt64 :=
  max (min (Seconds.saturatingMul b.initialDelay (doubling attempt)) b.maxDelay) 1

/-- Refuses a delay of nothing. -/
def validate (b : Backoff) : Except Fault Unit :=
  if b.initialDelay = 0 ∨ b.maxDelay = 0 then
    .error (.config ("readiness delays must be at least one second (initial_delay_secs = " ++
      toString b.initialDelay ++ ", max_delay_secs = " ++ toString b.maxDelay ++ ")"))
  else .ok ()

theorem one_le_delay (b : Backoff) (attempt : UInt32) : 1 ≤ (b.delay attempt).toNat := by
  rw [delay, Seconds.toNat_max]
  exact Nat.le_max_right _ _

example : (delay {} 2, delay {} 200, delay ⟨0, 0, 0⟩ 7) = (40, 60, 1) := by decide +kernel

end Backoff
end Shakedown
