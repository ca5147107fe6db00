import Mathlib.Logic.Basic
import Shakedown.Proofs.Check
import Shakedown.Proofs.TokenInfo
import Shakedown.SmokeRun

/-!
The life of a smoke run.

Either the user token is refused, and the run stops before it announces or checks anything, or the
plan is announced and every check of it is carried out in its turn. What a check comes to decides
nothing about the checks after it. The invariant keeps results, events and checks in step.
-/

namespace Shakedown.SmokeRun

/-- The result of a check with a verdict. -/
def resultOf (item : Group × Check) (verdict : Verdict) : CheckResult :=
  ⟨item.1.name, item.2.name, item.2.description, verdict⟩

section Walk
variable (settings : Settings) (service : Service) (ids : Nat → Uuid)

/-- How far a run has come after some checks. -/
def walk (start : Progress) (items : List (Group × Check)) : Progress :=
  items.foldl (Progress.step settings service ids) start

lemma walk_concat (start : Progress) (items : List (Group × Check)) (item : Group × Check) :
    walk settings service ids start (items ++ [item]) =
      (walk settings service ids start items).step settings service ids item := by
  rw [walk, List.foldl_append]
  rfl

/-- The verdict of a check in its turn, and the caller it leaves. -/
def inTurn (p : Progress) (item : Group × Check) : Verdict × Caller :=
  item.2.run settings service (ids p.results.length) p.caller

/-- What is logged of a check in its turn. -/
def logInTurn (p : Progress) (item : Group × Check) : List Log.Entry :=
  item.2.log settings service (ids p.results.length) p.caller ++
    [.finished item.1.name item.2.name (inTurn settings service ids p item).1.label]

lemma step_eq (p : Progress) (item : Group × Check) :
    p.step settings service ids item =
      ⟨p.results ++ [resultOf item (inTurn settings service ids p item).1],
        p.events ++ [.finished (resultOf item (inTurn settings service ids p item).1)],
        (inTurn settings service ids p item).2,
        p.log ++ logInTurn settings service ids p item⟩ := by
  rw [logInTurn, ← List.append_assoc]
  rfl

/-- A run that started from `start` without results has carried out `items`. -/
structure Abreast (start : Progress) (items : List (Group × Check)) (p : Progress) : Prop where
  length_eq : p.results.length = items.length
  events_eq : p.events = start.events ++ p.results.map .finished
  result : ∀ i item, items[i]? = some item → p.results[i]? = some (resultOf item
    (item.2.run settings service (ids i) (walk settings service ids start (items.take i)).caller).1)

lemma walk_abreast (start : Progress) (fresh : start.results = []) (items : List (Group × Check)) :
    Abreast settings service ids start items (walk settings service ids start items) := by
  induction items using List.reverseRecOn with
  | nil => exact ⟨by simp [walk, fresh], by simp [walk, fresh], by simp⟩
  | append_singleton items last ih =>
    obtain ⟨length_eq, events_eq, result⟩ := ih
    rw [walk_concat, step_eq]
    refine ⟨by simp [length_eq], by simp [events_eq], ?_⟩
    intro i item at_i
    rcases Nat.lt_or_ge i items.length with before | behind
    · have old : items[i]? = some item := by rwa [List.getElem?_append_left before] at at_i
      rw [List.getElem?_append_left (by omega), List.take_append_of_le_length (by omega)]
      exact result i item old
    · have i_eq : i = items.length := by
        have inside := (List.getElem?_eq_some_iff.mp at_i).1
        simp only [List.length_append, List.length_singleton] at inside
        omega
      subst i
      obtain rfl : last = item := by simpa using at_i
      rw [List.take_left, ← length_eq, List.getElem?_concat_length]
      rfl

/-- Each check is carried out with the caller that the checks before it have left. -/
lemma caller_walk_succ (start : Progress) (fresh : start.results = [])
    (items : List (Group × Check)) {i : Nat} {item : Group × Check} (at_i : items[i]? = some item) :
    (walk settings service ids start (items.take (i + 1))).caller =
      (item.2.run settings service (ids i)
        (walk settings service ids start (items.take i)).caller).2 := by
  have inside := (List.getElem?_eq_some_iff.mp at_i).1
  have length_eq := (walk_abreast settings service ids start fresh (items.take i)).length_eq
  rw [List.length_take, Nat.min_eq_left (Nat.le_of_lt inside)] at length_eq
  rw [List.take_add_one, at_i, Option.toList_some, walk_concat, step_eq, inTurn, length_eq]

lemma log_prefix_walk (start : Progress) (items : List (Group × Check)) :
    start.log <+: (walk settings service ids start items).log := by
  induction items using List.reverseRecOn with
  | nil => exact List.prefix_rfl
  | append_singleton items last ih =>
    rw [walk_concat, step_eq]
    exact ih.trans (List.prefix_append _ _)

/-- Checks call the service in their own order, and each of them for its own fetch at most once. -/
lemma walk_calls (start : Progress) (fresh : start.results = []) (items : List (Group × Check)) :
    ∃ made, made.Sublist (items.mapIdx fun i item => item.2.asks settings (ids i)).flatten ∧
      (walk settings service ids start items).caller.calls = start.caller.calls ++ made := by
  induction items using List.reverseRecOn with
  | nil => exact ⟨[], List.nil_sublist _, (List.append_nil _).symm⟩
  | append_singleton items last ih =>
    obtain ⟨made, sub, calls_eq⟩ := ih
    have length_eq := (walk_abreast settings service ids start fresh items).length_eq
    obtain ⟨own, own_sub, own_eq⟩ := last.2.run_calls settings service (ids items.length)
      (walk settings service ids start items).caller
    refine ⟨made ++ own, ?_, ?_⟩
    · rw [List.mapIdx_concat, List.flatten_append, List.flatten_singleton]
      exact sub.append own_sub
    · rw [walk_concat, step_eq, inTurn, length_eq, own_eq, calls_eq, List.append_assoc]

end Walk

/-- The calls that a run makes before its plan, if its token holds or there is none. -/
inductive Opens (settings : Settings) (service : Service) : List Fetch → Prop
  | untokened (absent : settings.token = none) : Opens settings service []
  | vouched {token : String} {f : Fetch} (given : settings.token = some token)
      (vouches : TokenInfo.Vouches service [] settings.tokenInfoUrl token f) :
      Opens settings service [f]

/-- A run that its token has stopped. -/
structure Stopped (settings : Settings) (service : Service) (r : Record) : Prop where
  refused : ∃ token fault, settings.token = some token ∧ r.outcome = .error fault ∧
    TokenInfo.Refuses service [] settings.tokenInfoUrl token fault r.calls
  silent : r.events = []
  calls_le : r.calls.length ≤ 1
  unasked : ∀ problem, Url.read settings.tokenInfoUrl = .error problem → r.calls = []

/-- A run that has carried out every check of its plan, each with the caller that the checks before
it have left. -/
structure Finished (settings : Settings) (service : Service) (ids : Nat → Uuid) (r : Record)
    (outcome : Outcome) : Prop where
  outcome_eq : r.outcome = .ok outcome
  events_eq : r.events = .planned (Plan.ofSettings settings) :: outcome.map .finished
  size_eq : outcome.length = (Plan.ofSettings settings).size
  carried_out : ∃ (opening : List Fetch) (callers : Nat → Caller),
    Opens settings service opening ∧ callers 0 = { calls := opening } ∧
    (∀ i item, (Plan.ofSettings settings).checks[i]? = some item →
      outcome[i]? = some (resultOf item (item.2.run settings service (ids i) (callers i)).1) ∧
        callers (i + 1) = (item.2.run settings service (ids i) (callers i)).2) ∧
    r.calls = (callers (Plan.ofSettings settings).size).calls

section Run
variable (settings : Settings) (service : Service) (ids : Nat → Uuid)

/-- The start of the checks after some calls. -/
def outset (opening : List Fetch) : Progress :=
  let plan := Plan.ofSettings settings
  { events := [.planned plan]
    caller := { calls := opening }
    log := validationLog settings service ++ [.assembled (plan.groups.map Group.name) plan.size] }

lemma run_of_refused {fault : Fault} {calls : List Fetch}
    (refused : validate settings service = (.error fault, calls)) :
    run settings service ids = ⟨.error fault, [], calls, validationLog settings service⟩ := by
  simp only [run, refused]

lemma run_of_valid {opening : List Fetch}
    (valid : validate settings service = (.ok (), opening)) :
    run settings service ids =
      let last := walk settings service ids (outset settings service opening)
        (Plan.ofSettings settings).checks
      ⟨.ok last.results, last.events, last.caller.calls, last.log⟩ := by
  simp only [run, valid]
  rfl

/-- The log of a run starts with that of the validation. -/
lemma validationLog_prefix_log :
    validationLog settings service <+: (run settings service ids).log := by
  cases validated : validate settings service with
  | mk result calls =>
    cases result with
    | error fault =>
      rw [run_of_refused settings service ids validated]
    | ok _ =>
      rw [run_of_valid settings service ids validated]
      exact (List.prefix_append _ _).trans (log_prefix_walk settings service ids
        (outset settings service calls) (Plan.ofSettings settings).checks)

lemma validate_cases :
    (∃ token fault calls, settings.token = some token ∧
      TokenInfo.Refuses service [] settings.tokenInfoUrl token fault calls ∧
      validate settings service = (.error fault, calls)) ∨
    ∃ opening, Opens settings service opening ∧
      validate settings service = (.ok (), opening) := by
  cases given : settings.token with
  | none => exact .inr ⟨[], .untokened given, by simp only [validate, given]⟩
  | some token =>
    rcases TokenInfo.validate_cases service [] settings.tokenInfoUrl token with
      ⟨fault, made, refused, validated⟩ | ⟨f, vouches, validated⟩
    · refine .inl ⟨token, fault, made, rfl, refused, ?_⟩
      simpa only [validate, given, List.nil_append] using validated
    · refine .inr ⟨[f], .vouched given vouches, ?_⟩
      simpa only [validate, given, List.nil_append] using validated

lemma stopped_of_refused {token : String} {fault : Fault} {calls : List Fetch}
    (given : settings.token = some token)
    (refused : TokenInfo.Refuses service [] settings.tokenInfoUrl token fault calls)
    (validated : validate settings service = (.error fault, calls)) :
    Stopped settings service (run settings service ids) := by
  rw [run_of_refused settings service ids validated]
  exact ⟨⟨token, fault, given, rfl, refused⟩, rfl, refused.length_le_one,
    fun _ unread => refused.eq_nil_of_unreadable unread⟩

lemma finished_of_valid {opening : List Fetch} (opens : Opens settings service opening)
    (validated : validate settings service = (.ok (), opening)) :
    ∃ outcome, Finished settings service ids (run settings service ids) outcome := by
  rw [run_of_valid settings service ids validated]
  obtain ⟨length_eq, events_eq, result⟩ :=
    walk_abreast settings service ids (outset settings service opening) rfl (Plan.ofSettings settings).checks
  refine ⟨_, rfl, events_eq, length_eq, opening,
    fun i => (walk settings service ids (outset settings service opening)
      ((Plan.ofSettings settings).checks.take i)).caller, opens, rfl, ?_, ?_⟩
  · intro i item at_i
    exact ⟨result i item at_i, caller_walk_succ settings service ids _ rfl _ at_i⟩
  · simp only [Plan.size, List.take_length]

end Run
end Shakedown.SmokeRun
