import Shakedown.Proofs.Load.Schedule

/-!
Two waits along one script, one with more patience than the other.

The delays do not depend on the timeout, so both waits follow one time line, and the longer timeout
is used up at a later poll or at the same one. They part at the last sleep of the shorter wait, which
the timeout may cut.
-/

namespace Shakedown

namespace Backoff
variable {initialDelay maxDelay t t' : UInt64}

lemma lastPoll_mono (initialDelay maxDelay : UInt64) (longer : t ≤ t') :
    lastPoll ⟨initialDelay, maxDelay, t⟩ ≤ lastPoll ⟨initialDelay, maxDelay, t'⟩ := by
  refine Nat.find_mono fun n used => ?_
  exact Nat.le_trans (UInt64.le_iff_toNat_le.mp longer) used

/-- Up to a poll that both waits come to, the longer timeout sleeps no less. -/
lemma toNat_gone_mono (longer : t ≤ t') {m n : Nat} (later : m ≤ n) :
    (gone ⟨initialDelay, maxDelay, t⟩ m).toNat ≤ (gone ⟨initialDelay, maxDelay, t'⟩ n).toNat := by
  rw [toNat_gone, toNat_gone]
  exact min_le_min (elapsed_mono _ later) (UInt64.le_iff_toNat_le.mp longer)

end Backoff

namespace App

/-- A poll has brought the end of a wait: an address, or the fault of the poll. -/
def Brought (script : Nat → Except Fault AppState) (w : Waited Nat) : Prop :=
  (∃ url, w.result = .ok url) ∨
    ∃ fault i, w.result = .error fault ∧ w.polls = i + 1 ∧ script i = .error fault

/-- A wait has come to nothing for want of time. -/
def NotReady (result : Except Fault String) : Prop :=
  ∃ app workspaceId seconds, result = .error (.notReady app workspaceId seconds)

section Script
variable {app : App} {workspaceId : String} {b : Backoff} {script : Nat → Except Fault AppState}

lemma firstSettled_of_brought (brought : Brought script (waitScript app workspaceId b script)) :
    ∃ k r, FirstSettled script k r ∧ k ≤ b.lastPoll := by
  rcases script_cases b script with first | unsettled
  · exact first
  · rw [waitScript_of_unsettled unsettled] at brought
    rcases brought with ⟨url, ok⟩ | ⟨fault, i, _, polls_eq, failed⟩
    · cases ok
    · obtain rfl : b.lastPoll = i := Nat.succ.inj polls_eq
      have settles := unsettled b.lastPoll (Nat.lt_succ_self _)
      rw [failed] at settles
      cases settles

/-- A wait within a longer timeout ends no earlier, and has slept no less by then. -/
lemma ends_no_earlier {initialDelay maxDelay t t' : UInt64} (longer : t ≤ t') :
    let short := waitScript app workspaceId ⟨initialDelay, maxDelay, t⟩ script
    let long := waitScript app workspaceId ⟨initialDelay, maxDelay, t'⟩ script
    short.polls ≤ long.polls ∧ short.seconds ≤ long.seconds := by
  intro short long
  have last_le := Backoff.lastPoll_mono initialDelay maxDelay longer
  obtain ⟨k, ends⟩ := exists_endsAt app workspaceId ⟨initialDelay, maxDelay, t⟩ script
  obtain ⟨k', ends'⟩ := exists_endsAt app workspaceId ⟨initialDelay, maxDelay, t'⟩ script
  have later : k ≤ k' := by
    by_contra earlier
    have in_time := ends.inTime
    exact ends'.settles (by omega) (ends.unsettled k' (by omega))
  refine ⟨?_, ?_⟩
  · simp only [short, long, ends.polls_eq, ends'.polls_eq]
    omega
  · simp only [short, long, ends.seconds_eq, ends'.seconds_eq]
    exact Backoff.toNat_gone_mono longer later

/-- A wait that a longer timeout cannot bring to an app was in vain with the shorter one. -/
lemma notReady_of_longer {initialDelay maxDelay t t' : UInt64} (longer : t ≤ t')
    (gave_up : NotReady (waitScript app workspaceId ⟨initialDelay, maxDelay, t'⟩ script).result) :
    NotReady (waitScript app workspaceId ⟨initialDelay, maxDelay, t⟩ script).result := by
  have last_le := Backoff.lastPoll_mono initialDelay maxDelay longer
  rcases script_cases ⟨initialDelay, maxDelay, t⟩ script with ⟨k, r, first, inTime⟩ | unsettled
  · rw [waitScript_of_settled first (Nat.le_trans inTime last_le)] at gave_up
    rw [waitScript_of_settled first inTime]
    exact gave_up
  · rw [waitScript_of_unsettled unsettled]
    exact ⟨app.proxyKey, workspaceId, t.toNat, rfl⟩

/-- What a poll brings within a timeout it brings within every longer one, as soon. A wait that
is in vain with the longer timeout is in vain with the shorter one, after no more polls and no more
sleep. -/
theorem longer_timeout_never_hurts (app : App) (workspaceId : String)
    {initialDelay maxDelay t t' : UInt64} (longer : t ≤ t')
    (script : Nat → Except Fault AppState) :
    let short := waitScript app workspaceId ⟨initialDelay, maxDelay, t⟩ script
    let long := waitScript app workspaceId ⟨initialDelay, maxDelay, t'⟩ script
    (Brought script short → long.result = short.result ∧ long.polls = short.polls) ∧
      (NotReady long.result →
        NotReady short.result ∧ short.polls ≤ long.polls ∧ short.seconds ≤ long.seconds) := by
  intro short long
  constructor
  · intro brought
    have last_le := Backoff.lastPoll_mono initialDelay maxDelay longer
    obtain ⟨k, r, first, inTime⟩ := firstSettled_of_brought brought
    simp only [short, long, waitScript_of_settled first inTime,
      waitScript_of_settled first (Nat.le_trans inTime last_le), and_self]
  · intro gave_up
    exact ⟨notReady_of_longer longer gave_up, ends_no_earlier longer⟩

/-- Nothing is listed before the fifth poll, which fails. -/
private def failing : Nat → Except Fault AppState := fun i =>
  if i < 4 then .ok .missing else .error (.io "gone")

private def failingWait (timeout : UInt64) : Waited Nat :=
  waitScript .cbas "w" ⟨1, 2, timeout⟩ failing

/-- Seven seconds bring the fault of the fifth poll, and so do nine; five seconds are too few, and
so are two. -/
theorem longer_timeout_never_hurts_failing :
    (7 : UInt64) ≤ 9 ∧ Brought failing (failingWait 7) ∧
      (failingWait 9).result = (failingWait 7).result ∧ (2 : UInt64) ≤ 5 ∧
      NotReady (failingWait 5).result ∧ NotReady (failingWait 2).result := by
  have nine : (7 : UInt64) ≤ 9 := by decide
  have five : (2 : UInt64) ≤ 5 := by decide
  have brought : Brought failing (failingWait 7) := by
    have first : FirstSettled failing 4 (.error (.io "gone")) :=
      ⟨rfl, by unfold Unsettled; decide⟩
    have inTime : 4 ≤ (⟨1, 2, 7⟩ : Backoff).lastPoll := by
      rw [Backoff.le_lastPoll_iff]
      decide
    rw [failingWait, waitScript_of_settled first inTime]
    exact .inr ⟨_, 4, rfl, rfl, rfl⟩
  have in_vain : NotReady (failingWait 5).result := by
    have last_le : (⟨1, 2, 5⟩ : Backoff).lastPoll ≤ 3 := Nat.find_min' _ (by decide)
    have unsettled : Unsettled failing 4 := by unfold Unsettled; decide
    rw [failingWait, waitScript_of_unsettled fun i hi => unsettled i (by omega)]
    exact ⟨"cbas", "w", 5, rfl⟩
  exact ⟨nine, brought, ((longer_timeout_never_hurts .cbas "w" nine failing).1 brought).1, five,
    in_vain, ((longer_timeout_never_hurts .cbas "w" five failing).2 in_vain).1⟩

end Script
end App
end Shakedown
