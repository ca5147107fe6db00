import Mathlib.Algebra.BigOperators.Intervals
import Mathlib.Data.Nat.Find
import Mathlib.Tactic.Lemma
import Shakedown.Load.Wait

/-!
The schedule of a wait.

The delays after the polls add up to a time line, and the last poll is the first one that finds the
timeout used up. A wait along a script of answers follows this schedule: it ends at the first answer
that settles it, or at the last poll, and it never sleeps past the timeout. The words that the wait
counts in hold every number on the way. A longer timeout has the same time line and a later last
poll, so it brings what the shorter one brings, or more.
-/

namespace Shakedown

namespace Backoff
variable (b : Backoff)

/-- The seconds between a poll and the next one, as long as the timeout is far away. -/
def pause (i : Nat) : Nat := (b.delay (UInt32.ofNat i)).toNat

/-- The seconds from the start to a poll, as long as the timeout is far away. -/
def elapsed (n : Nat) : Nat := ∑ i ∈ Finset.range n, b.pause i

lemma elapsed_succ (n : Nat) : b.elapsed (n + 1) = b.elapsed n + b.pause n :=
  Finset.sum_range_succ _ n

lemma one_le_pause (i : Nat) : 1 ≤ b.pause i := b.one_le_delay _

lemma le_elapsed (n : Nat) : n ≤ b.elapsed n := by
  induction n with
  | zero => exact Nat.zero_le _
  | succ n ih =>
    have := b.one_le_pause n
    rw [elapsed_succ]
    omega

lemma elapsed_mono : Monotone b.elapsed :=
  monotone_nat_of_le_succ fun n => by
    rw [elapsed_succ]
    exact Nat.le_add_right _ _

lemma exists_timeout_le : ∃ n, b.timeout.toNat ≤ b.elapsed n :=
  ⟨b.timeout.toNat, b.le_elapsed _⟩

/-- The first poll at which the timeout is used up. -/
def lastPoll : Nat := Nat.find b.exists_timeout_le

lemma timeout_le_elapsed_lastPoll : b.timeout.toNat ≤ b.elapsed b.lastPoll :=
  Nat.find_spec b.exists_timeout_le

lemma elapsed_lt_of_lt_lastPoll {n : Nat} (early : n < b.lastPoll) :
    b.elapsed n < b.timeout.toNat :=
  Nat.not_le.mp (Nat.find_min b.exists_timeout_le early)

lemma le_lastPoll_iff {k : Nat} : k ≤ b.lastPoll ↔ ∀ n < k, b.elapsed n < b.timeout.toNat := by
  rw [lastPoll, Nat.le_find_iff]
  simp only [Nat.not_le]

lemma lastPoll_le_timeout : b.lastPoll ≤ b.timeout.toNat :=
  Nat.find_min' _ (b.le_elapsed _)

/-- The seconds slept before a poll. -/
def gone (n : Nat) : UInt64 := UInt64.ofNat (min (b.elapsed n) b.timeout.toNat)

/-- The sleep after a poll. -/
def nap (n : Nat) : UInt64 := min (b.delay (UInt32.ofNat n)) (b.timeout - b.gone n)

/-- The sleeps before a poll. -/
def naps (n : Nat) : List UInt64 := (List.range n).map b.nap

lemma naps_succ (n : Nat) : b.naps (n + 1) = b.naps n ++ [b.nap n] := by
  rw [naps, List.range_succ, List.map_append]
  rfl

lemma length_naps (n : Nat) : (b.naps n).length = n := by
  rw [naps, List.length_map, List.length_range]

lemma toNat_gone (n : Nat) : (b.gone n).toNat = min (b.elapsed n) b.timeout.toNat := by
  have := b.timeout.toNat_lt_size
  exact UInt64.toNat_ofNat_of_lt' (by omega)

lemma toNat_nap (n : Nat) : (b.nap n).toNat = min (b.pause n) (b.timeout.toNat - b.elapsed n) := by
  have gone_eq := b.toNat_gone n
  have sub_eq : (b.timeout - b.gone n).toNat = b.timeout.toNat - (b.gone n).toNat :=
    Seconds.toNat_sub (by omega)
  rw [nap, Seconds.toNat_min, sub_eq, gone_eq, pause]
  omega

lemma toNat_gone_succ (n : Nat) :
    (b.gone (n + 1)).toNat = (b.gone n).toNat + (b.nap n).toNat := by
  rw [toNat_gone, toNat_gone, toNat_nap, elapsed_succ]
  omega

/-- What has gone by and the next sleep add up without a carry. -/
lemma gone_add_nap (n : Nat) : b.gone n + b.nap n = b.gone (n + 1) := by
  have fits : (b.gone n).toNat + (b.nap n).toNat < UInt64.size := by
    have := (b.gone (n + 1)).toNat_lt_size
    rwa [toNat_gone_succ] at this
  rw [← UInt64.toNat_inj, Seconds.toNat_add fits, toNat_gone_succ]

lemma gone_lt_timeout_iff {n : Nat} : b.gone n < b.timeout ↔ b.elapsed n < b.timeout.toNat := by
  rw [UInt64.lt_iff_toNat_lt, toNat_gone]
  omega

lemma one_le_nap {n : Nat} (early : b.elapsed n < b.timeout.toNat) : 1 ≤ (b.nap n).toNat := by
  have := b.one_le_pause n
  rw [toNat_nap]
  omega

lemma sum_naps (n : Nat) : ((b.naps n).map UInt64.toNat).sum = (b.gone n).toNat := by
  induction n with
  | zero => simp [naps, toNat_gone, elapsed]
  | succ n ih =>
    rw [naps_succ, List.map_append, List.sum_append, ih, toNat_gone_succ, List.map_singleton,
      List.sum_singleton]

lemma gone_lastPoll : b.gone b.lastPoll = b.timeout := by
  have := b.timeout_le_elapsed_lastPoll
  rw [← UInt64.toNat_inj, toNat_gone]
  omega

end Backoff

namespace App

/-- What a poll makes of a wait if it settles it: a ready app's address or a fault. -/
def settled? : Except Fault AppState → Option (Except Fault String)
  | .error fault => some (.error fault)
  | .ok (.ready url) => some (.ok url)
  | .ok _ => none

/-- None of the first polls settles a wait. -/
def Unsettled (script : Nat → Except Fault AppState) (n : Nat) : Prop :=
  ∀ i < n, settled? (script i) = none

/-- The first poll that settles a wait, and what it makes of it. -/
def FirstSettled (script : Nat → Except Fault AppState) (k : Nat) (r : Except Fault String) :
    Prop :=
  settled? (script k) = some r ∧ Unsettled script k

section Poll
variable {σ : Type} {app : App} {workspaceId : String} {b : Backoff} {sleep : UInt64 → σ → σ}
  {poll : σ → Except Fault AppState × σ} {state : σ}

lemma waitFrom_of_settled {r : Except Fault String} (settles : settled? (poll state).1 = some r)
    (attempt : UInt32) (waited : UInt64) :
    waitFrom app workspaceId b sleep poll attempt waited state = ⟨r, [], 1, (poll state).2⟩ := by
  rw [waitFrom]
  split
  · next fault next answered =>
    rw [answered] at settles
    cases settles
    rw [answered]
  · next url next answered =>
    rw [answered] at settles
    cases settles
    rw [answered]
  · next answer next not_ready answered =>
    rw [answered] at settles
    cases answer with
    | ready url => exact absurd rfl (not_ready url)
    | provisioning => cases settles
    | missing => cases settles

lemma waitFrom_of_unsettled (unsettled : settled? (poll state).1 = none) (attempt : UInt32)
    (waited : UInt64) :
    waitFrom app workspaceId b sleep poll attempt waited state =
      if waited < b.timeout then
        (waitFrom app workspaceId b sleep poll (attempt + 1)
          (waited + min (b.delay attempt) (b.timeout - waited))
          (sleep (min (b.delay attempt) (b.timeout - waited)) (poll state).2)).after
            (min (b.delay attempt) (b.timeout - waited))
      else ⟨.error (notReady app workspaceId waited), [], 1, (poll state).2⟩ := by
  conv_lhs => rw [waitFrom]
  split
  · next fault next answered => rw [answered] at unsettled; cases unsettled
  · next url next answered => rw [answered] at unsettled; cases unsettled
  · next answer next not_ready answered =>
    rw [answered]
    split <;> rfl

lemma foldr_after (naps : List UInt64) (w : Waited σ) :
    naps.foldr Waited.after w =
      { w with slept := naps ++ w.slept, polls := w.polls + naps.length } := by
  induction naps with
  | nil => rfl
  | cons nap naps ih =>
    rw [List.foldr_cons, ih, Waited.after, List.length_cons]
    rfl

end Poll

section Script
variable {app : App} {workspaceId : String} {b : Backoff} {script : Nat → Except Fault AppState}

/-- The wait along a script from a poll on. -/
def scriptFrom (app : App) (workspaceId : String) (b : Backoff)
    (script : Nat → Except Fault AppState) (attempt : UInt32) (waited : UInt64) (i : Nat) :
    Waited Nat :=
  waitFrom app workspaceId b (fun _ i => i) (fun i => (script i, i + 1)) attempt waited i

lemma scriptFrom_of_settled {i : Nat} {r : Except Fault String}
    (settles : settled? (script i) = some r) (attempt : UInt32) (waited : UInt64) :
    scriptFrom app workspaceId b script attempt waited i = ⟨r, [], 1, i + 1⟩ :=
  waitFrom_of_settled settles attempt waited

lemma scriptFrom_of_early {i : Nat} (unsettled : settled? (script i) = none) {attempt : UInt32}
    {waited : UInt64} (early : waited < b.timeout) :
    scriptFrom app workspaceId b script attempt waited i =
      (scriptFrom app workspaceId b script (attempt + 1)
        (waited + min (b.delay attempt) (b.timeout - waited)) (i + 1)).after
          (min (b.delay attempt) (b.timeout - waited)) := by
  rw [scriptFrom, waitFrom_of_unsettled unsettled, if_pos early]
  rfl

lemma scriptFrom_of_late {i : Nat} (unsettled : settled? (script i) = none) {attempt : UInt32}
    {waited : UInt64} (late : ¬ waited < b.timeout) :
    scriptFrom app workspaceId b script attempt waited i =
      ⟨.error (notReady app workspaceId waited), [], 1, i + 1⟩ := by
  rw [scriptFrom, waitFrom_of_unsettled unsettled, if_neg late]

/-- One sleep on schedule leads to the next poll on schedule. -/
lemma scriptFrom_step {n : Nat} (early : n < b.lastPoll) (unsettled : settled? (script n) = none) :
    scriptFrom app workspaceId b script (UInt32.ofNat n) (b.gone n) n =
      (scriptFrom app workspaceId b script (UInt32.ofNat (n + 1)) (b.gone (n + 1)) (n + 1)).after
        (b.nap n) := by
  have inTime := b.gone_lt_timeout_iff.mpr (b.elapsed_lt_of_lt_lastPoll early)
  rw [scriptFrom_of_early unsettled inTime, ← b.gone_add_nap n, UInt32.ofNat_add]
  rfl

/-- A wait whose first polls settle nothing comes to the next poll on schedule. -/
lemma waitScript_reach {n : Nat} (inTime : n ≤ b.lastPoll) (unsettled : Unsettled script n) :
    waitScript app workspaceId b script = (b.naps n).foldr Waited.after
      (scriptFrom app workspaceId b script (UInt32.ofNat n) (b.gone n) n) := by
  induction n with
  | zero => simp [waitScript, wait, scriptFrom, Backoff.naps, Backoff.gone, Backoff.elapsed]
  | succ n ih =>
    have before : Unsettled script n := fun i hi => unsettled i (by omega)
    rw [ih (by omega) before, scriptFrom_step (by omega) (unsettled n (by omega)), b.naps_succ,
      List.foldr_append]
    rfl

lemma waitScript_of_settled {k : Nat} {r : Except Fault String} (first : FirstSettled script k r)
    (inTime : k ≤ b.lastPoll) :
    waitScript app workspaceId b script = ⟨r, b.naps k, k + 1, k + 1⟩ := by
  rw [waitScript_reach inTime first.2, scriptFrom_of_settled first.1, foldr_after, b.length_naps,
    List.append_nil, Nat.add_comm]

lemma waitScript_of_unsettled (unsettled : Unsettled script (b.lastPoll + 1)) :
    waitScript app workspaceId b script =
      ⟨.error (notReady app workspaceId b.timeout), b.naps b.lastPoll, b.lastPoll + 1,
        b.lastPoll + 1⟩ := by
  have before : Unsettled script b.lastPoll := fun i hi => unsettled i (by omega)
  have late : ¬ b.gone b.lastPoll < b.timeout := by
    rw [b.gone_lt_timeout_iff]
    exact Nat.not_lt.mpr b.timeout_le_elapsed_lastPoll
  rw [waitScript_reach (Nat.le_refl _) before, scriptFrom_of_late (unsettled _ (by omega)) late,
    foldr_after, b.length_naps, List.append_nil, Nat.add_comm, b.gone_lastPoll]

lemma exists_firstSettled {n : Nat} (settles : ¬ Unsettled script n) :
    ∃ k r, FirstSettled script k r ∧ k < n := by
  classical
  have somewhere : ∃ k, k < n ∧ settled? (script k) ≠ none := by
    simpa [Unsettled] using settles
  obtain ⟨inside, found⟩ := Nat.find_spec somewhere
  obtain ⟨r, settled⟩ := Option.ne_none_iff_exists'.mp found
  refine ⟨Nat.find somewhere, r, ⟨settled, fun i hi => ?_⟩, inside⟩
  by_contra settles_i
  exact Nat.find_min somewhere hi ⟨by omega, settles_i⟩

/-- A wait ends at the first poll that settles it, or at the last poll. -/
lemma script_cases (b : Backoff) (script : Nat → Except Fault AppState) :
    (∃ k r, FirstSettled script k r ∧ k ≤ b.lastPoll) ∨ Unsettled script (b.lastPoll + 1) := by
  by_cases unsettled : Unsettled script (b.lastPoll + 1)
  · exact .inr unsettled
  · obtain ⟨k, r, first, inside⟩ := exists_firstSettled unsettled
    exact .inl ⟨k, r, first, by omega⟩

/-- The rounds of a wait: the counter of its delays and the seconds that it has counted when a poll
comes up. -/
inductive Round (b : Backoff) (script : Nat → Except Fault AppState) :
    UInt32 → UInt64 → Nat → Prop
  | first : Round b script 0 0 0
  | next {attempt : UInt32} {waited : UInt64} {i : Nat} (round : Round b script attempt waited i)
      (unsettled : settled? (script i) = none) (early : waited < b.timeout) :
      Round b script (attempt + 1) (waited + min (b.delay attempt) (b.timeout - waited)) (i + 1)

/-- The invariant of the rounds: counter and seconds are those of the schedule. -/
lemma Round.on_schedule {attempt : UInt32} {waited : UInt64} {i : Nat}
    (round : Round b script attempt waited i) :
    attempt = UInt32.ofNat i ∧ waited = b.gone i ∧ i ≤ b.lastPoll ∧ Unsettled script i := by
  induction round with
  | first =>
    refine ⟨rfl, ?_, Nat.zero_le _, fun j hj => absurd hj (Nat.not_lt_zero j)⟩
    simp [Backoff.gone, Backoff.elapsed]
  | next round unsettled early ih =>
    obtain ⟨rfl, rfl, inTime, before⟩ := ih
    rename_i n
    have here := b.gone_lt_timeout_iff.mp early
    refine ⟨(UInt32.ofNat_add n 1).symm, b.gone_add_nap n, ?_, fun j hj => ?_⟩
    · rw [b.le_lastPoll_iff] at inTime ⊢
      intro m hm
      rcases Nat.lt_succ_iff_lt_or_eq.mp hm with earlier | rfl
      · exact inTime m earlier
      · exact here
    · rcases Nat.lt_succ_iff_lt_or_eq.mp hj with earlier | rfl
      · exact before j earlier
      · exact unsettled

lemma round_of_unsettled {n : Nat} (inTime : n ≤ b.lastPoll) (unsettled : Unsettled script n) :
    Round b script (UInt32.ofNat n) (b.gone n) n := by
  induction n with
  | zero =>
    have start : b.gone 0 = 0 := by simp [Backoff.gone, Backoff.elapsed]
    rw [start]
    exact .first
  | succ n ih =>
    have before : Unsettled script n := fun i hi => unsettled i (by omega)
    have early := b.gone_lt_timeout_iff.mpr (b.elapsed_lt_of_lt_lastPoll inTime)
    have next := (ih (by omega) before).next (unsettled n (by omega)) early
    rw [← b.gone_add_nap n, UInt32.ofNat_add]
    exact next

end Script

/-- The seconds that a wait has slept. -/
def Waited.seconds {σ : Type} (w : Waited σ) : Nat := (w.slept.map UInt64.toNat).sum

/-- What it takes for a wait along a script to follow its schedule. -/
structure FollowsSchedule (app : App) (workspaceId : String) (b : Backoff)
    (script : Nat → Except Fault AppState) (w : Waited Nat) : Prop where
  /-- An answer in time that settles the wait is what it comes to. -/
  settled : ∀ k r, FirstSettled script k r → k ≤ b.lastPoll → w.result = r ∧ w.polls = k + 1
  /-- Without one the wait uses up the whole timeout. -/
  timedOut : (∀ k r, FirstSettled script k r → b.lastPoll < k) →
    w.result = .error (.notReady app.proxyKey workspaceId b.timeout.toNat) ∧
      w.polls = b.lastPoll + 1 ∧ w.seconds = b.timeout.toNat
  polls_eq : w.polls = w.slept.length + 1
  slept_eq : ∀ i sleep, w.slept[i]? = some sleep →
    sleep.toNat = min (b.pause i) (b.timeout.toNat - b.elapsed i) ∧ 1 ≤ sleep.toNat
  seconds_le : w.seconds ≤ b.timeout.toNat
  /-- Every poll has its round, and there are no other rounds. -/
  rounds : ∀ i, i < w.polls ↔ ∃ attempt waited, Round b script attempt waited i
  /-- From a round on the wait goes on with the counter and the seconds of that round. -/
  resumed : ∀ attempt waited i, Round b script attempt waited i →
    w = (w.slept.take i).foldr Waited.after (scriptFrom app workspaceId b script attempt waited i)
  /-- The counter counts the polls and never passes the timeout. -/
  counted : ∀ attempt waited i, Round b script attempt waited i →
    attempt.toNat = i ∧ attempt.toNat ≤ b.timeout.toNat
  /-- The seconds counted never pass the timeout, and no sleep takes them out of their word. -/
  in_words : ∀ attempt waited i, Round b script attempt waited i →
    waited.toNat ≤ b.timeout.toNat ∧ (waited < b.timeout →
      waited.toNat + (min (b.delay attempt) (b.timeout - waited)).toNat < UInt64.size)

/-- A wait that sleeps on schedule up to a poll, which settles it or is the last one. -/
structure EndsAt (b : Backoff) (script : Nat → Except Fault AppState) (k : Nat) (w : Waited Nat) :
    Prop where
  inTime : k ≤ b.lastPoll
  unsettled : Unsettled script k
  settles : k < b.lastPoll → settled? (script k) ≠ none
  polls_eq : w.polls = k + 1
  slept_eq : w.slept = b.naps k

section Script
variable {app : App} {workspaceId : String} {b : Backoff} {script : Nat → Except Fault AppState}
  {w : Waited Nat} {k : Nat}

lemma exists_endsAt (app : App) (workspaceId : String) (b : Backoff)
    (script : Nat → Except Fault AppState) :
    ∃ k, EndsAt b script k (waitScript app workspaceId b script) := by
  rcases script_cases b script with ⟨k, r, first, inTime⟩ | unsettled
  · rw [waitScript_of_settled first inTime]
    have settles : settled? (script k) ≠ none := by simp [first.1]
    exact ⟨k, inTime, first.2, fun _ => settles, rfl, rfl⟩
  · rw [waitScript_of_unsettled unsettled]
    have before : Unsettled script b.lastPoll := fun i hi => unsettled i (by omega)
    exact ⟨b.lastPoll, Nat.le_refl _, before, fun h => absurd h (Nat.lt_irrefl _), rfl, rfl⟩

lemma EndsAt.seconds_eq (ends : EndsAt b script k w) : w.seconds = (b.gone k).toNat := by
  rw [Waited.seconds, ends.slept_eq, b.sum_naps]

lemma EndsAt.slept_getElem? (ends : EndsAt b script k w) {i : Nat} {sleep : UInt64}
    (at_i : w.slept[i]? = some sleep) : i < b.lastPoll ∧ sleep = b.nap i := by
  rw [ends.slept_eq, Backoff.naps, List.getElem?_map, Option.map_eq_some_iff] at at_i
  obtain ⟨j, at_j, rfl⟩ := at_i
  obtain ⟨inside, rfl⟩ := List.getElem?_eq_some_iff.mp at_j
  rw [List.length_range] at inside
  rw [List.getElem_range]
  have := ends.inTime
  exact ⟨by omega, rfl⟩

/-- The rounds of a wait are those of its polls. -/
lemma EndsAt.round_iff (ends : EndsAt b script k w) (i : Nat) :
    i < w.polls ↔ ∃ attempt waited, Round b script attempt waited i := by
  rw [ends.polls_eq]
  constructor
  · intro inside
    have := ends.inTime
    exact ⟨_, _, round_of_unsettled (by omega) fun j hj => ends.unsettled j (by omega)⟩
  · rintro ⟨attempt, waited, round⟩
    obtain ⟨_, _, inTime, unsettled⟩ := round.on_schedule
    by_contra beyond
    exact ends.settles (by omega) (unsettled k (by omega))

lemma EndsAt.take_slept (ends : EndsAt b script k w) {i : Nat} (inside : i ≤ k) :
    w.slept.take i = b.naps i := by
  rw [ends.slept_eq, Backoff.naps, ← List.map_take, List.take_range, Nat.min_eq_left inside]
  rfl

/-- A wait along any script follows its schedule, for every backoff whose timeout the counter can
count to. -/
theorem wait_follows_schedule (app : App) (workspaceId : String) (b : Backoff)
    (countable : b.timeout.toNat < UInt32.size) (script : Nat → Except Fault AppState) :
    FollowsSchedule app workspaceId b script (waitScript app workspaceId b script) := by
  obtain ⟨k, ends⟩ := exists_endsAt app workspaceId b script
  have lastPoll_le := b.lastPoll_le_timeout
  constructor
  case settled =>
    intro k r first inTime
    rw [waitScript_of_settled first inTime]
    exact ⟨rfl, rfl⟩
  case timedOut =>
    intro none_in_time
    have unsettled : Unsettled script (b.lastPoll + 1) := by
      by_contra settles
      obtain ⟨j, r, first, inside⟩ := exists_firstSettled settles
      have := none_in_time j r first
      omega
    rw [waitScript_of_unsettled unsettled]
    refine ⟨rfl, rfl, ?_⟩
    rw [Waited.seconds, b.sum_naps, b.gone_lastPoll]
  case polls_eq => rw [ends.polls_eq, ends.slept_eq, b.length_naps]
  case slept_eq =>
    intro i sleep at_i
    obtain ⟨early, sleep_eq⟩ := ends.slept_getElem? at_i
    rw [sleep_eq]
    exact ⟨b.toNat_nap i, b.one_le_nap (b.elapsed_lt_of_lt_lastPoll early)⟩
  case seconds_le =>
    rw [ends.seconds_eq, b.toNat_gone]
    exact Nat.min_le_right _ _
  case rounds => exact ends.round_iff
  case resumed =>
    intro attempt waited i round
    have inside := (ends.round_iff i).mpr ⟨attempt, waited, round⟩
    rw [ends.polls_eq] at inside
    obtain ⟨rfl, rfl, inTime, unsettled⟩ := round.on_schedule
    rw [ends.take_slept (by omega)]
    exact waitScript_reach inTime unsettled
  case counted =>
    intro attempt waited i round
    obtain ⟨rfl, _, inTime, _⟩ := round.on_schedule
    have count_eq : (UInt32.ofNat i).toNat = i := UInt32.toNat_ofNat_of_lt' (by omega)
    omega
  case in_words =>
    intro attempt waited i round
    obtain ⟨rfl, rfl, _, _⟩ := round.on_schedule
    refine ⟨by rw [b.toNat_gone]; exact Nat.min_le_right _ _, fun _ => ?_⟩
    rw [← Backoff.nap, ← b.toNat_gone_succ]
    exact UInt64.toNat_lt_size _

/-- An app that is ready only when the timeout is used up, at the fifth poll. -/
private def slow : Nat → Except Fault AppState := fun i =>
  if i < 4 then .ok .provisioning else .ok (.ready "https://wds")

theorem wait_follows_schedule_to_the_end :
    (⟨2, 8, 20⟩ : Backoff).timeout.toNat < UInt32.size ∧
      FollowsSchedule .wds "w" ⟨2, 8, 20⟩ slow (waitScript .wds "w" ⟨2, 8, 20⟩ slow) ∧
      (waitScript .wds "w" ⟨2, 8, 20⟩ slow).result = .ok "https://wds" ∧
      (waitScript .wds "w" ⟨2, 8, 20⟩ slow).polls = 5 := by
  have countable : (⟨2, 8, 20⟩ : Backoff).timeout.toNat < UInt32.size := by decide
  have follows := wait_follows_schedule .wds "w" ⟨2, 8, 20⟩ countable slow
  have first : FirstSettled slow 4 (.ok "https://wds") := ⟨rfl, by unfold Unsettled; decide⟩
  have inTime : 4 ≤ (⟨2, 8, 20⟩ : Backoff).lastPoll := by
    rw [Backoff.le_lastPoll_iff]
    decide
  exact ⟨countable, follows, follows.settled 4 _ first inTime⟩

end Script
end App
end Shakedown
