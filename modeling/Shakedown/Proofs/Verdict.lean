import Shakedown.Proofs.Judgement
import Shakedown.Proofs.Question
import Shakedown.Proofs.SmokeRun

/-!
Why a check errs, and when it fails.

A check of a plan errs when its question has no address, when the call for it fails, or when it reads
a body that is no JSON, and its message is then that of the fault. It fails only on a reply that a
call has brought, and its message ends with that reply. It never errs for want of a setting: no fault
says what is said then.
-/

namespace Shakedown

namespace Settings

/-- What a check comes to for want of a setting. -/
def Lacking (verdict : Verdict) : Prop :=
  ∃ s : Settings, s.requireToken = .error verdict ∨ s.requireWorkspace = .error verdict ∨
    s.requireTarget = .error verdict

/-- What is said for want of a setting. -/
def wants : List String :=
  ["user token not configured", "workspace id not configured",
    "orchestration host, namespace or name not configured"]

lemma exists_want {verdict : Verdict} (lacking : Lacking verdict) :
    ∃ text ∈ wants, verdict = .errored text := by
  obtain ⟨s, token | workspace | target⟩ := lacking
  · unfold requireToken at token
    split at token <;> cases token
    exact ⟨_, by simp [wants], rfl⟩
  · unfold requireWorkspace at workspace
    split at workspace <;> cases workspace
    exact ⟨_, by simp [wants], rfl⟩
  · unfold requireTarget at target
    split at target <;> cases target
    exact ⟨_, by simp [wants], rfl⟩

end Settings

namespace Fault

/-- Texts of which every message of a fault holds one. -/
def marks : List String :=
  ["invalid URL for host ", "HTTP request failed: ", "user token is no longer valid (HTTP ",
    " returned HTTP ", "failed to decode response body: ", "configuration error: ", "I/O error: ",
    " app in workspace "]

lemma infix_front (mark rest : String) : mark.toList <:+: (mark ++ rest).toList := by
  rw [String.toList_append]
  exact (List.prefix_append _ _).isInfix

lemma infix_middle (lead mark rest : String) :
    mark.toList <:+: (lead ++ (mark ++ rest)).toList := by
  rw [String.toList_append]
  exact (infix_front mark rest).trans (List.suffix_append _ _).isInfix

lemma exists_mark (f : Fault) : ∃ mark ∈ marks, mark.toList <:+: f.message.toList := by
  cases f <;> dsimp only [message]
  case unexpectedStatus =>
    simp only [String.append_assoc]
    exact ⟨" returned HTTP ", by simp [marks], infix_middle _ _ _⟩
  case notReady =>
    simp only [String.append_assoc]
    exact ⟨" app in workspace ", by simp [marks], infix_middle _ _ _⟩
  case invalidUrl | tokenRejected =>
    simp only [String.append_assoc]
    exact ⟨_, by simp [marks], infix_front _ _⟩
  case http | decode | config | io => exact ⟨_, by simp [marks], infix_front _ _⟩

lemma message_notMem_wants (f : Fault) : f.message ∉ Settings.wants := by
  intro wanted
  obtain ⟨mark, known, within⟩ := f.exists_mark
  have apart : ∀ mark ∈ marks, ∀ text ∈ Settings.wants, ¬ mark.toList <:+: text.toList := by
    decide +kernel
  exact apart mark known f.message wanted within

/-- No fault is told as the want of a setting is. -/
lemma not_lacking (f : Fault) : ¬ Settings.Lacking (.errored f.message) := by
  intro lacking
  obtain ⟨text, wanted, told⟩ := Settings.exists_want lacking
  cases told
  exact f.message_notMem_wants wanted

end Fault

namespace Caller

open ReplyCache

/-- The service gave the reply to one of the calls, and it was for that pair. -/
def Arrived (service : Service) (calls : List Fetch) (pair : Pair) (reply : Reply) : Prop :=
  ∃ earlier g, earlier ++ [g] <+: calls ∧ keyOf g = pair ∧ service earlier g = .ok reply

/-- Everything that is kept has arrived. -/
def KeepsArrived (service : Service) (c : Caller) : Prop :=
  ∀ pair reply, c.cache.entries.lookup pair = some reply → Arrived service c.calls pair reply

variable {service : Service} {c : Caller}

lemma Arrived.later {calls : List Fetch} {pair : Pair} {reply : Reply}
    (arrived : Arrived service calls pair reply) (more : List Fetch) :
    Arrived service (calls ++ more) pair reply := by
  obtain ⟨earlier, g, within, same, replied⟩ := arrived
  exact ⟨earlier, g, within.trans (List.prefix_append _ _), same, replied⟩

lemma keepsArrived_start (calls : List Fetch) : KeepsArrived service { calls } := by
  intro pair reply found
  cases found

/-- One fetch keeps the invariant, and a reply that it brings has arrived. -/
lemma KeepsArrived.fetch (keeps : KeepsArrived service c) (f : Fetch) :
    KeepsArrived service (c.fetch service f).2 ∧
      ∀ reply, (c.fetch service f).1 = .ok reply →
        Arrived service (c.fetch service f).2.calls (keyOf f) reply := by
  have next : KeepsArrived service (c.fetch service f).2 := by
    intro pair reply found
    rcases lookup_fetch_cases found with before | ⟨rfl, brought, calls_eq⟩
    · have arrived := keeps pair reply before
      rcases calls_of_fetch service c f with same | called
      · rwa [same]
      · rw [called]
        exact arrived.later [f]
    · rw [calls_eq]
      exact ⟨c.calls, f, List.prefix_refl _, rfl, brought⟩
  exact ⟨next, fun reply handed => next _ _ (find?_of_fetch_ok handed)⟩

end Caller

namespace Check

open Caller ReplyCache

/-- A check is handed a reply to its question, which a call for the same pair has brought. -/
structure Answered (service : Service) (q : Question) (before after : Caller) (url : Url)
    (reply : Reply) : Prop where
  built : Address.url q.host q.reference = .ok url
  handed : (before.fetch service ⟨url, q.bearer⟩).1 = .ok reply
  arrived : Arrived service after.calls (keyOf ⟨url, q.bearer⟩) reply

/-- The faults that keep a check from its verdict on a reply. -/
inductive Hindered (service : Service) (check : Check) (q : Question) (before after : Caller) :
    Fault → Prop
  | unbuilt {problem : Url.Problem} (unread : Address.url q.host q.reference = .error problem) :
      Hindered service check q before after (.invalidUrl q.host q.reference problem.message)
  | unanswered {url : Url} {fault : Fault} (built : Address.url q.host q.reference = .ok url)
      (called : after.calls = before.calls ++ [⟨url, q.bearer⟩])
      (failed : service before.calls ⟨url, q.bearer⟩ = .error fault) :
      Hindered service check q before after fault
  | undecoded {url : Url} {reply : Reply} {problem : Json.Problem}
      (answered : Answered service q before after url reply)
      (reached : check.decodes reply = true) (bad : Json.parse reply.body = .error problem) :
      Hindered service check q before after (.decode problem)

/-- What the verdict of a check tells of its question and of what became of it. -/
structure Explained (service : Service) (check : Check) (q : Question) (before after : Caller)
    (verdict : Verdict) : Prop where
  errored_iff : ∀ message, verdict = .errored message ↔
    ∃ fault, Hindered service check q before after fault ∧ fault.message = message
  failed : ∀ message, verdict = .failed message →
    ∃ url reply lead, Answered service q before after url reply ∧ message = lead ++ reply.body
  configured : ¬ Settings.Lacking verdict
  calls : after.calls = before.calls ∨ ∃ f, after.calls = before.calls ++ [f]

section Run
variable {s : Settings} {service : Service} {id : Uuid} {check : Check} {q : Question}
  {before : Caller}

lemma run_of_unbuilt (asks : check.question? s id = some q) {problem : Url.Problem}
    (unread : Address.url q.host q.reference = .error problem) :
    check.run s service id before =
      (.ofFault (.invalidUrl q.host q.reference problem.message), before) := by
  refine run_of_unasked ?_ service before
  rw [fetch_of_question asks]
  unfold Question.fetch
  rw [unread]

lemma run_of_built (asks : check.question? s id = some q) {url : Url}
    (built : Address.url q.host q.reference = .ok url) :
    check.run s service id before =
      (check.conclude (before.fetch service ⟨url, q.bearer⟩).1,
        (before.fetch service ⟨url, q.bearer⟩).2) := by
  refine run_of_asked ?_ service before
  rw [fetch_of_question asks]
  unfold Question.fetch
  rw [built]

/-- One check keeps the invariant of its caller. -/
lemma run_keepsArrived (keeps : KeepsArrived service before) (asks : check.question? s id = some q) :
    KeepsArrived service (check.run s service id before).2 := by
  cases built : Address.url q.host q.reference with
  | error problem => rwa [run_of_unbuilt asks built]
  | ok url =>
    rw [run_of_built asks built]
    exact (keeps.fetch _).1

lemma answered_of_handed (keeps : KeepsArrived service before) {url : Url} {reply : Reply}
    (built : Address.url q.host q.reference = .ok url)
    (handed : (before.fetch service ⟨url, q.bearer⟩).1 = .ok reply) :
    Answered service q before (before.fetch service ⟨url, q.bearer⟩).2 url reply :=
  ⟨built, handed, (keeps.fetch _).2 reply handed⟩

/-- A fault that hinders a check is what the check tells. -/
lemma errored_of_hindered (asks : check.question? s id = some q) {fault : Fault}
    (hindered : Hindered service check q before (check.run s service id before).2 fault) :
    (check.run s service id before).1 = .errored fault.message := by
  cases hindered with
  | unbuilt unread => rw [run_of_unbuilt asks unread]; rfl
  | unanswered built called failed =>
    rw [run_of_built asks built] at called ⊢
    simp only [fetch_eq_error_iff.mpr ⟨failed, called⟩]
    rfl
  | undecoded answered reached bad =>
    rw [run_of_built asks answered.built]
    simp only [answered.handed, conclude]
    exact ((judge_judged _ check).errored_iff _).mpr ⟨reached, _, bad, rfl⟩

/-- What a check tells when it errs is a fault that hinders it. -/
lemma hindered_of_errored (keeps : KeepsArrived service before)
    (asks : check.question? s id = some q) {message : String}
    (errored : (check.run s service id before).1 = .errored message) :
    ∃ fault, Hindered service check q before (check.run s service id before).2 fault ∧
      fault.message = message := by
  cases built : Address.url q.host q.reference with
  | error problem =>
    rw [run_of_unbuilt asks built] at errored ⊢
    cases errored
    exact ⟨_, .unbuilt built, rfl⟩
  | ok url =>
    rw [run_of_built asks built] at errored ⊢
    cases answer : (before.fetch service ⟨url, q.bearer⟩).1 with
    | error fault =>
      simp only [answer, conclude, Verdict.ofFault, Verdict.errored.injEq] at errored
      obtain ⟨failed, called⟩ := fetch_eq_error_iff.mp answer
      exact ⟨fault, .unanswered built called failed, errored⟩
    | ok reply =>
      simp only [answer, conclude] at errored
      obtain ⟨reached, problem, bad, told⟩ := ((judge_judged reply check).errored_iff _).mp errored
      exact ⟨_, .undecoded (answered_of_handed keeps built answer) reached bad, told⟩

/-- A check that fails ends its message with the reply it was handed. -/
lemma answered_of_failed (keeps : KeepsArrived service before)
    (asks : check.question? s id = some q) {message : String}
    (failed : (check.run s service id before).1 = .failed message) :
    ∃ url reply lead, Answered service q before (check.run s service id before).2 url reply ∧
      message = lead ++ reply.body := by
  cases built : Address.url q.host q.reference with
  | error problem =>
    rw [run_of_unbuilt asks built] at failed
    cases failed
  | ok url =>
    rw [run_of_built asks built] at failed ⊢
    cases answer : (before.fetch service ⟨url, q.bearer⟩).1 with
    | error fault =>
      rw [answer] at failed
      cases failed
    | ok reply =>
      simp only [answer, conclude] at failed
      obtain ⟨lead, told⟩ := (judge_judged reply check).eq_of_failed failed
      exact ⟨url, reply, lead, answered_of_handed keeps built answer, told⟩

lemma calls_of_run (asks : check.question? s id = some q) :
    (check.run s service id before).2.calls = before.calls ∨
      ∃ f, (check.run s service id before).2.calls = before.calls ++ [f] := by
  cases built : Address.url q.host q.reference with
  | error problem =>
    rw [run_of_unbuilt asks built]
    exact .inl rfl
  | ok url =>
    rw [run_of_built asks built]
    exact (calls_of_fetch service before _).imp_right fun called => ⟨_, called⟩

lemma run_explained (keeps : KeepsArrived service before) (asks : check.question? s id = some q) :
    Explained service check q before (check.run s service id before).2
      (check.run s service id before).1 := by
  constructor
  case errored_iff =>
    intro message
    constructor
    · exact hindered_of_errored keeps asks
    · rintro ⟨fault, hindered, rfl⟩
      exact errored_of_hindered asks hindered
  case failed => exact fun message => answered_of_failed keeps asks
  case configured =>
    intro lacking
    obtain ⟨text, _, errored⟩ := Settings.exists_want lacking
    obtain ⟨fault, _, rfl⟩ := hindered_of_errored keeps asks errored
    rw [errored] at lacking
    exact fault.not_lacking lacking
  case calls => exact calls_of_run asks

end Run
end Check

namespace SmokeRun

/-- The checks of a run have been carried out one after the other, each with the verdict that its
question explains. -/
structure Explains (settings : Settings) (service : Service) (ids : Nat → Uuid) (r : Record)
    (outcome : Outcome) (callers : Nat → Caller) : Prop where
  outcome_eq : r.outcome = .ok outcome
  size_eq : outcome.length = (Plan.ofSettings settings).size
  opens : ∃ opening, Opens settings service opening ∧ callers 0 = { calls := opening }
  calls_eq : r.calls = (callers (Plan.ofSettings settings).size).calls
  explained : ∀ i group check, (Plan.ofSettings settings).checks[i]? = some (group, check) →
    ∃ q verdict, check.question? settings (ids i) = some q ∧
      check.run settings service (ids i) (callers i) = (verdict, callers (i + 1)) ∧
      outcome[i]? = some (resultOf (group, check) verdict) ∧
      Check.Explained service check q (callers i) (callers (i + 1)) verdict

section Run
variable (settings : Settings) (service : Service) (ids : Nat → Uuid)

lemma exists_explains {r : Record} {outcome : Outcome}
    (finished : Finished settings service ids r outcome) :
    ∃ callers, Explains settings service ids r outcome callers := by
  obtain ⟨opening, callers, opens, start, in_turn, calls_eq⟩ := finished.carried_out
  have keeps : ∀ i ≤ (Plan.ofSettings settings).checks.length,
      Caller.KeepsArrived service (callers i) := by
    intro i
    induction i with
    | zero =>
      intro _
      rw [start]
      exact Caller.keepsArrived_start opening
    | succ i ih =>
      intro inside
      have here : i < (Plan.ofSettings settings).checks.length := by omega
      have at_i := List.getElem?_eq_getElem here
      obtain ⟨q, asks⟩ := Check.exists_question (ids i) (List.mem_of_getElem? at_i)
      rw [(in_turn i _ at_i).2]
      exact Check.run_keepsArrived (ih (by omega)) asks
  refine ⟨callers, finished.outcome_eq, finished.size_eq, ⟨opening, opens, start⟩, calls_eq, ?_⟩
  intro i group check at_i
  have inside := (List.getElem?_eq_some_iff.mp at_i).1
  obtain ⟨q, asks⟩ := Check.exists_question (ids i) (List.mem_of_getElem? at_i)
  obtain ⟨result_eq, next_eq⟩ := in_turn i _ at_i
  have explained := Check.run_explained (keeps i (by omega)) asks
  rw [← next_eq] at explained
  exact ⟨q, _, asks, Prod.ext rfl next_eq.symm, result_eq, explained⟩

/-- A group belongs to the plan of a run just when all that its checks ask for was given. A run that
its token stops carries out no check; in every other run the verdict of each check is explained by
its question and by what became of it. -/
theorem verdicts_explained :
    (∀ group, group ∈ (Plan.ofSettings settings).groups ↔ group.Equipped settings) ∧
    (Stopped settings service (run settings service ids) ∨
      ∃ outcome callers,
        Explains settings service ids (run settings service ids) outcome callers) := by
  refine ⟨Plan.mem_groups_iff settings, ?_⟩
  rcases validate_cases settings service with
    ⟨token, fault, calls, given, refused, validated⟩ | ⟨opening, opens, validated⟩
  · exact .inl (stopped_of_refused settings service ids given refused validated)
  · obtain ⟨outcome, finished⟩ := finished_of_valid settings service ids opens validated
    obtain ⟨callers, explains⟩ := exists_explains settings service ids finished
    exact .inr ⟨outcome, callers, explains⟩

end Run
end SmokeRun
end Shakedown
