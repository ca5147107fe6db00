import Mathlib.Tactic.Lemma
import Shakedown.Proofs.Check
import Shakedown.Proofs.Json.Reading

/-!
When a service counts as being up.

The check passes just on a payload that says so itself and, where it reports components, of each of
them. It errs just when there is no payload to judge, and fails on every other payload; if only
components are at fault, it names those that are not up, in the order of their names.
-/

namespace Shakedown.Check

/-- The value reports the status UP. -/
def SaysUp (j : Json) : Prop := j.get? "status" = some (.string "UP")

/-- The payload says UP, and so does each of its components, if it has any. -/
structure Healthy (payload : Json) : Prop where
  saysUp : SaysUp payload
  components : ∀ components, payload.get? "components" = some components →
    ∃ members, components = .object members ∧
      ∀ name component, (name, component) ∈ members → SaysUp component

/-- The reply is what the status of the service under test is asked for and answered with, by the
service or by the caller's cache. -/
def ObtainsStatus (s : Settings) (service : Service) (c : Caller) (reply : Reply) : Prop :=
  ∃ url, Address.resolve s.host "/status" = .ok url ∧ (c.fetch service ⟨url, none⟩).1 = .ok reply

/-- The names are those of the members that do not say UP, each once and in ascending order. -/
structure NamesDown (members : List (String × Json)) (names : List String) : Prop where
  ascending : names.Pairwise (· < ·)
  mem_iff : ∀ name, name ∈ names ↔ ∃ component, (name, component) ∈ members ∧ ¬ SaysUp component

/-- What a verdict on the status says of the reply that was obtained, if there is one. -/
structure StatusTold (obtained : Reply → Prop) (verdict : Verdict) : Prop where
  passed_iff : verdict = .passed ↔ ∃ reply payload, obtained reply ∧
    Json.parse reply.body = .ok payload ∧ Healthy payload
  errored_iff : (∃ message, verdict = .errored message) ↔ (∀ reply, ¬ obtained reply) ∨
    ∃ reply problem, obtained reply ∧ Json.parse reply.body = .error problem
  failed_iff : (∃ message, verdict = .failed message) ↔ ∃ reply payload, obtained reply ∧
    Json.parse reply.body = .ok payload ∧ ¬ Healthy payload
  names_down : ∀ reply payload members message, obtained reply →
    Json.parse reply.body = .ok payload → SaysUp payload →
    payload.get? "components" = some (.object members) → verdict = .failed message →
    ∃ names, NamesDown members names ∧
      message = "components not UP: " ++ Text.joinWith ", " names ++ ": " ++ reply.body

lemma isUp_iff {j : Json} : isUp j = true ↔ SaysUp j := by
  rw [isUp, decide_eq_true_iff]
  exact Json.text?_eq_some_iff

/-! Components. -/

lemma namesDown_down {members : List (String × Json)} (ascending : Named.Ascending members) :
    NamesDown members (down members) := by
  constructor
  · exact List.pairwise_map.mpr (ascending.sublist List.filter_sublist)
  · intro name
    constructor
    · intro mem
      obtain ⟨⟨_, component⟩, kept, rfl⟩ := List.mem_map.mp mem
      obtain ⟨listed, not_up⟩ := List.mem_filter.mp kept
      exact ⟨component, listed, fun up => by simp [isUp_iff.mpr up] at not_up⟩
    · rintro ⟨component, listed, not_up⟩
      refine List.mem_map.mpr ⟨(name, component), List.mem_filter.mpr ⟨listed, ?_⟩, rfl⟩
      rw [Bool.not_eq_true', ← Bool.not_eq_true]
      exact mt isUp_iff.mp not_up

lemma down_eq_nil_iff {members : List (String × Json)} : down members = [] ↔
    ∀ name component, (name, component) ∈ members → SaysUp component := by
  rw [down, List.map_eq_nil_iff, List.filter_eq_nil_iff]
  constructor
  · intro none_down name component listed
    have up := none_down _ listed
    rw [Bool.not_eq_true, Bool.not_eq_false'] at up
    exact isUp_iff.mp up
  · rintro all_up ⟨name, component⟩ listed
    rw [isUp_iff.mpr (all_up name component listed)]
    decide

lemma healthy_iff_of_components {payload : Json} {members : List (String × Json)}
    (says_up : SaysUp payload) (reported : payload.get? "components" = some (.object members)) :
    Healthy payload ↔ down members = [] := by
  rw [down_eq_nil_iff]
  constructor
  · rintro ⟨_, components⟩
    obtain ⟨_, same, all_up⟩ := components _ reported
    cases same
    exact all_up
  · intro all_up
    refine ⟨says_up, fun components found => ⟨members, ?_, all_up⟩⟩
    exact Option.some.inj (found.symm.trans reported)

/-! Payloads. -/

/-- A payload that says UP passes or fails by its components. -/
lemma judgeComponents_cases (body : String) {payload : Json} (says_up : SaysUp payload) :
    (judgeComponents body payload = .passed ∧ Healthy payload) ∨
      ((∃ message, judgeComponents body payload = .failed message) ∧ ¬ Healthy payload) := by
  unfold judgeComponents
  cases reported : payload.get? "components" with
  | none =>
    left
    refine ⟨rfl, says_up, ?_⟩
    intro components found
    cases reported.symm.trans found
  | some components =>
    cases listed : components.members? with
    | none =>
      right
      simp only [listed]
      refine ⟨⟨_, rfl⟩, ?_⟩
      intro healthy
      obtain ⟨members, rfl, _⟩ := healthy.components _ reported
      cases listed
    | some members =>
      obtain rfl : components = .object members := by
        cases components <;> cases listed
        rfl
      have healthy_iff := healthy_iff_of_components says_up reported
      by_cases all_up : down members = []
      · left
        exact ⟨if_pos all_up, healthy_iff.mpr all_up⟩
      · right
        exact ⟨⟨_, if_neg all_up⟩, mt healthy_iff.mp all_up⟩

variable {reply : Reply} {payload : Json}

lemma judgeUp_of_read (read : Json.parse reply.body = .ok payload) : judgeUp reply =
    if isUp payload then judgeComponents reply.body payload
    else .failed ("Status is not UP: " ++ reply.body) := by
  simp only [judgeUp, judgeJson, Reply.json, read]

/-- A payload passes just when it is healthy, and fails otherwise. -/
lemma judgeUp_cases (read : Json.parse reply.body = .ok payload) :
    (judgeUp reply = .passed ∧ Healthy payload) ∨
      ((∃ message, judgeUp reply = .failed message) ∧ ¬ Healthy payload) := by
  rw [judgeUp_of_read read]
  by_cases says_up : SaysUp payload
  · rw [if_pos (isUp_iff.mpr says_up)]
    exact judgeComponents_cases reply.body says_up
  · rw [if_neg (mt isUp_iff.mp says_up)]
    exact .inr ⟨⟨_, rfl⟩, fun healthy => says_up healthy.saysUp⟩

lemma exists_names_down {members : List (String × Json)} {message : String}
    (read : Json.parse reply.body = .ok payload) (says_up : SaysUp payload)
    (reported : payload.get? "components" = some (.object members))
    (failed : judgeUp reply = .failed message) : ∃ names, NamesDown members names ∧
      message = "components not UP: " ++ Text.joinWith ", " names ++ ": " ++ reply.body := by
  have ascending : Named.Ascending members :=
    ((Json.wellFormed_of_parse read).get? reported).1
  rw [judgeUp_of_read read, if_pos (isUp_iff.mpr says_up), judgeComponents, reported] at failed
  dsimp only [Json.members?] at failed
  split at failed
  · cases failed
  · cases failed
    exact ⟨down members, namesDown_down ascending, rfl⟩

/-! Verdicts. -/

lemma statusTold_of_nothing {obtained : Reply → Prop} (nothing : ∀ reply, ¬ obtained reply)
    (message : String) : StatusTold obtained (.errored message) where
  passed_iff := iff_of_false nofun fun ⟨reply, _, got, _⟩ => nothing reply got
  errored_iff := iff_of_true ⟨message, rfl⟩ (.inl nothing)
  failed_iff := iff_of_false nofun fun ⟨reply, _, got, _⟩ => nothing reply got
  names_down := fun reply _ _ _ got => absurd got (nothing reply)

lemma statusTold_of_unreadable {problem : Json.Problem}
    (bad : Json.parse reply.body = .error problem) (message : String) :
    StatusTold (· = reply) (.errored message) := by
  have unread {r : Reply} (same : r = reply) (payload : Json) :
      Json.parse r.body ≠ .ok payload := by
    rw [same, bad]
    nofun
  constructor
  case passed_iff =>
    exact iff_of_false nofun fun ⟨_, payload, same, read, _⟩ => unread same payload read
  case errored_iff => exact iff_of_true ⟨message, rfl⟩ (.inr ⟨reply, problem, rfl, bad⟩)
  case failed_iff =>
    exact iff_of_false nofun fun ⟨_, payload, same, read, _⟩ => unread same payload read
  case names_down => nofun

lemma statusTold_of_read (read : Json.parse reply.body = .ok payload) :
    StatusTold (· = reply) (judgeUp reply) := by
  have judged := judgeUp_cases read
  have of_payload (P : Json → Prop) :
      (∃ r other, r = reply ∧ Json.parse r.body = .ok other ∧ P other) ↔ P payload := by
    constructor
    · rintro ⟨_, other, rfl, also_read, holds⟩
      obtain rfl : payload = other := Except.ok.inj (read.symm.trans also_read)
      exact holds
    · intro holds
      exact ⟨reply, payload, rfl, read, holds⟩
  constructor
  case passed_iff =>
    rw [of_payload]
    rcases judged with ⟨passed, healthy⟩ | ⟨⟨message, failed⟩, unhealthy⟩
    · exact iff_of_true passed healthy
    · exact iff_of_false (failed ▸ nofun) unhealthy
  case errored_iff =>
    refine iff_of_false ?_ ?_
    · rintro ⟨message, errored⟩
      rcases judged with ⟨passed, _⟩ | ⟨⟨message, failed⟩, _⟩
      · cases passed.symm.trans errored
      · cases failed.symm.trans errored
    · rintro (nothing | ⟨_, problem, rfl, bad⟩)
      · exact nothing reply rfl
      · cases read.symm.trans bad
  case failed_iff =>
    rw [of_payload]
    rcases judged with ⟨passed, healthy⟩ | ⟨failed, unhealthy⟩
    · exact iff_of_false (passed ▸ nofun) (not_not.mpr healthy)
    · exact iff_of_true failed unhealthy
  case names_down =>
    rintro _ _ members message rfl also_read says_up reported failed
    exact exists_names_down also_read says_up reported failed

lemma statusTold_judge (reply : Reply) : StatusTold (· = reply) (statusUp.judge reply) := by
  cases read : Json.parse reply.body with
  | ok payload => exact statusTold_of_read read
  | error problem =>
    have errored : statusUp.judge reply = .errored (Fault.decode problem).message := by
      simp only [judge, judgeUp, judgeJson, Reply.json, read]
      rfl
    rw [errored]
    exact statusTold_of_unreadable read _

/-- The verdict on the status of a service says exactly whether a reply was obtained, its body is
JSON and the payload is healthy; a failure for components names those that are not up. -/
theorem status_verdict_exact (s : Settings) (service : Service) (id : Uuid) (c : Caller) :
    StatusTold (ObtainsStatus s service c) (statusUp.run s service id c).1 := by
  have asks : statusUp.fetch s id = s.hostFetch "/status" false := rfl
  cases resolved : Address.resolve s.host "/status" with
  | error fault =>
    have unasked : statusUp.fetch s id = .error (.ofFault fault) := by
      rw [asks, Settings.hostFetch, resolved]
    rw [run_of_unasked unasked]
    refine statusTold_of_nothing ?_ _
    rintro reply ⟨url, found, _⟩
    cases resolved.symm.trans found
  | ok url =>
    have asked : statusUp.fetch s id = .ok ⟨url, none⟩ := by
      rewrite [asks, Settings.hostFetch, resolved]
      rfl
    have obtains_iff (reply : Reply) : ObtainsStatus s service c reply ↔
        (c.fetch service ⟨url, none⟩).1 = .ok reply := by
      simp only [ObtainsStatus, resolved, Except.ok.injEq, exists_eq_left']
    rw [run_of_asked asked, funext fun reply => propext (obtains_iff reply)]
    cases answered : (c.fetch service ⟨url, none⟩).1 with
    | error fault => exact statusTold_of_nothing (fun _ => nofun) _
    | ok reply =>
      have same (r : Reply) : (Except.ok reply : Except Fault Reply) = .ok r ↔ r = reply := by
        rw [Except.ok.injEq, eq_comm]
      rw [funext fun r => propext (same r)]
      exact statusTold_judge reply

end Shakedown.Check
