import Shakedown.Check
import Shakedown.Proofs.Plan

/-!
What the checks of a plan ask.

The question of a check is made from the settings: a reference on a host, and a bearer token if one
goes with it. A check of a plan never misses anything in the settings, since its group belongs to the
plan just when all that its checks ask for was given.
-/

namespace Shakedown

/-- What a check asks: a reference on a host, and the bearer token that goes with it. -/
structure Question where
  host : String
  reference : String
  bearer : Option String

/-- The fetch of a question, if its address can be made. -/
def Question.fetch (q : Question) : Except Verdict Fetch :=
  match Address.url q.host q.reference with
  | .ok url => .ok ⟨url, q.bearer⟩
  | .error problem => .error (.ofFault (.invalidUrl q.host q.reference problem.message))

/-- A text that was given and is not empty. -/
def Settings.Provided (value : Option String) : Prop := ∃ text, value = some text ∧ text ≠ ""

lemma Settings.provided_iff {value : Option String} :
    Provided value ↔ ∃ text, present value = some text := by
  simp only [Provided, present_eq_some_iff]

/-- What the checks of a group ask the settings for. -/
def Group.Equipped (s : Settings) : Group → Prop
  | .unauthenticated => True
  | .authenticated => Settings.Provided s.userToken ∧ Settings.Provided s.workspaceId
  | .orchestration => Settings.Provided s.orchestration.host ∧
      Settings.Provided s.orchestration.workspaceNamespace ∧
      Settings.Provided s.orchestration.workspaceName ∧ Settings.Provided s.userToken

/-- A group belongs to a plan just when all that its checks ask for was given. -/
lemma Plan.mem_groups_iff (s : Settings) (group : Group) :
    group ∈ (Plan.ofSettings s).groups ↔ group.Equipped s := by
  cases group with
  | unauthenticated => simp [Group.Equipped, ofSettings]
  | authenticated =>
    simp only [authenticated_mem_iff, Group.Equipped, Settings.provided_iff, Settings.token,
      Settings.workspace]
    constructor
    · rintro ⟨token, id, given, named⟩
      exact ⟨⟨token, given⟩, id, named⟩
    · rintro ⟨⟨token, given⟩, id, named⟩
      exact ⟨token, id, given, named⟩
  | orchestration =>
    simp only [orchestration_mem_iff, Group.Equipped, Settings.provided_iff,
      Settings.target_eq_some_iff, Settings.token]
    constructor
    · rintro ⟨target, host, space, name, token⟩
      exact ⟨⟨_, host⟩, ⟨_, space⟩, ⟨_, name⟩, _, token⟩
    · rintro ⟨⟨host, host_eq⟩, ⟨space, space_eq⟩, ⟨name, name_eq⟩, token, token_eq⟩
      exact ⟨⟨host, space, name, token⟩, host_eq, space_eq, name_eq, token_eq⟩

namespace Check
variable {s : Settings} {id : Uuid} {check : Check}

/-- The question that a check asks, if the settings hold all that goes into it. -/
def question? (s : Settings) (id : Uuid) : Check → Option Question
  | .statusCode => some ⟨s.host, "/status", none⟩
  | .statusUp => some ⟨s.host, "/status", none⟩
  | .versionCode => some ⟨s.host, "/version", none⟩
  | .versionPresent => some ⟨s.host, "/version", none⟩
  | .jobListing => do
    some ⟨s.host, "/job/v1/instance/" ++ (← s.workspace), some (← s.token)⟩
  | .randomJob => do some ⟨s.host, "/job/v1/" ++ id.text, some (← s.token)⟩
  | .randomImportJob => do
    let target ← s.target
    some ⟨target.host, workspacePath target ++ "/importJob/" ++ id.text, some target.userToken⟩
  | .importJobListing => do
    let target ← s.target
    some ⟨target.host, workspacePath target ++ "/importJob?runningOnly=true",
      some target.userToken⟩

lemma hostFetch_plain (reference : String) :
    s.hostFetch reference false = (Question.mk s.host reference none).fetch := by
  unfold Settings.hostFetch Question.fetch Address.resolve
  cases Address.url s.host reference <;> rfl

lemma hostFetch_authenticated {token : String} (given : s.token = some token)
    (reference : String) :
    s.hostFetch reference true = (Question.mk s.host reference (some token)).fetch := by
  unfold Settings.hostFetch Question.fetch Address.resolve
  cases Address.url s.host reference with
  | error problem => rfl
  | ok url => simp [Settings.requireToken, given, Except.map]

lemma orchestrationFetch_eq {target : Orchestration} (known : s.target = some target)
    (reference : String) : s.orchestrationFetch reference =
      (Question.mk target.host reference (some target.userToken)).fetch := by
  simp only [Settings.orchestrationFetch, Settings.requireTarget, known, bind, Except.bind]
  unfold Question.fetch Address.resolve
  cases Address.url target.host reference <;> rfl

/-- A check asks its question and nothing else. -/
lemma fetch_of_question {q : Question} (asks : check.question? s id = some q) :
    check.fetch s id = q.fetch := by
  cases check with
  | statusCode => obtain rfl := Option.some.inj asks; simp only [fetch, hostFetch_plain]
  | statusUp => obtain rfl := Option.some.inj asks; simp only [fetch, hostFetch_plain]
  | versionCode => obtain rfl := Option.some.inj asks; simp only [fetch, hostFetch_plain]
  | versionPresent => obtain rfl := Option.some.inj asks; simp only [fetch, hostFetch_plain]
  | jobListing =>
    simp only [question?, Option.bind_eq_bind, Option.bind_eq_some_iff, Option.some.injEq] at asks
    obtain ⟨workspace, named, token, given, rfl⟩ := asks
    simp only [fetch, Settings.requireWorkspace, named, bind, Except.bind,
      hostFetch_authenticated given]
  | randomJob =>
    simp only [question?, Option.bind_eq_bind, Option.bind_eq_some_iff, Option.some.injEq] at asks
    obtain ⟨token, given, rfl⟩ := asks
    simp only [fetch, hostFetch_authenticated given]
  | randomImportJob =>
    simp only [question?, Option.bind_eq_bind, Option.bind_eq_some_iff, Option.some.injEq] at asks
    obtain ⟨target, known, rfl⟩ := asks
    simp only [fetch, Settings.requireTarget, known, bind, Except.bind,
      orchestrationFetch_eq known]
  | importJobListing =>
    simp only [question?, Option.bind_eq_bind, Option.bind_eq_some_iff, Option.some.injEq] at asks
    obtain ⟨target, known, rfl⟩ := asks
    simp only [fetch, Settings.requireTarget, known, bind, Except.bind,
      orchestrationFetch_eq known]

/-- No check of a plan misses anything in the settings. -/
lemma exists_question {group : Group} (id : Uuid)
    (planned : (group, check) ∈ (Plan.ofSettings s).checks) :
    ∃ q, check.question? s id = some q := by
  obtain ⟨included, member⟩ := Plan.mem_checks_iff.mp planned
  cases group with
  | unauthenticated =>
    simp only [Group.checks, List.mem_cons, List.not_mem_nil, or_false] at member
    rcases member with rfl | rfl | rfl | rfl <;> exact ⟨_, rfl⟩
  | authenticated =>
    obtain ⟨token, workspace, given, named⟩ := Plan.authenticated_mem_iff.mp included
    simp only [Group.checks, List.mem_cons, List.not_mem_nil, or_false] at member
    rcases member with rfl | rfl <;> simp [question?, given, named]
  | orchestration =>
    obtain ⟨target, known⟩ := Plan.orchestration_mem_iff.mp included
    simp only [Group.checks, List.mem_cons, List.not_mem_nil, or_false] at member
    rcases member with rfl | rfl <;> simp [question?, known]

end Check
end Shakedown
