import Shakedown.Proofs.Address
import Shakedown.Proofs.Plan
import Shakedown.Proofs.SmokeRun

/-!
Where the user token of a smoke run goes.

It goes to the token-info endpoint as a parameter, and as a bearer token only to who answers for
the root of the host under test or of the orchestration host. What the workspace is called cannot
change that: its names stand behind a rooted front in every reference. The status and version
checks carry no token at all.
-/

namespace Shakedown

/-- Who answers for the address answers for the root of the host. -/
def Url.HomeOf (host : String) (u : Url) : Prop :=
  ∃ home, Address.resolve host "/" = .ok home ∧ u.origin = home.origin

lemma Url.homeOf_of_rooted {host reference : String} {u : Url} (rooted : Url.Rooted reference)
    (found : Address.resolve host reference = .ok u) : u.HomeOf host := by
  obtain ⟨home, root, scheme_eq, authority_eq⟩ := Address.authority_of_rooted rooted found
  exact ⟨home, root, by rw [origin, origin, scheme_eq, authority_eq]⟩

namespace Settings
variable {s : Settings} {reference : String} {f : Fetch}

lemma hostFetch_eq_ok {authenticated : Bool}
    (asked : s.hostFetch reference authenticated = .ok f) :
    Address.resolve s.host reference = .ok f.url ∧
      f.bearer = (if authenticated then s.token else none) ∧
      (authenticated = true → f.bearer ≠ none) := by
  unfold hostFetch at asked
  cases found : Address.resolve s.host reference with
  | error fault => simp only [found] at asked; cases asked
  | ok url =>
    simp only [found] at asked
    cases authenticated with
    | false => cases asked; simp
    | true =>
      cases given : s.token with
      | none => simp [requireToken, given, Except.map] at asked
      | some token =>
        simp only [requireToken, given, Except.map, if_true, Except.ok.injEq] at asked
        subst f
        simp

lemma orchestrationFetch_eq_ok (asked : s.orchestrationFetch reference = .ok f) :
    ∃ target, s.target = some target ∧ Address.resolve target.host reference = .ok f.url ∧
      f.bearer = some target.userToken := by
  unfold orchestrationFetch at asked
  cases given : s.target with
  | none => simp [requireTarget, given, bind, Except.bind] at asked
  | some target =>
    simp only [requireTarget, given, bind, Except.bind] at asked
    cases found : Address.resolve target.host reference with
    | error fault => simp only [found] at asked; cases asked
    | ok url =>
      simp only [found, Except.ok.injEq] at asked
      subst f
      exact ⟨target, rfl, found, rfl⟩

end Settings

namespace SmokeRun

/-- The bearer token is the one that the operator gave, and not empty. -/
def CarriesToken (s : Settings) (f : Fetch) : Prop :=
  ∃ token, s.userToken = some token ∧ token ≠ "" ∧ f.bearer = some token

/-- What a check of a group may send, and where to. -/
def InScope (s : Settings) (f : Fetch) : Group → Prop
  | .unauthenticated => f.bearer = none ∧
      (Address.resolve s.host "/status" = .ok f.url ∨ Address.resolve s.host "/version" = .ok f.url)
  | .authenticated => CarriesToken s f ∧ f.url.HomeOf s.host
  | .orchestration => CarriesToken s f ∧ ∃ host, s.orchestration.host = some host ∧
      f.url.HomeOf host

lemma carriesToken_of_eq {s : Settings} {f : Fetch} {token : String} (given : s.token = some token)
    (carried : f.bearer = some token) : CarriesToken s f := by
  obtain ⟨given, filled⟩ := Settings.token_eq_some_iff.mp given
  exact ⟨token, given, filled, carried⟩

lemma CarriesToken.token_ne_none {s : Settings} {f : Fetch} (carries : CarriesToken s f) :
    s.token ≠ none := by
  obtain ⟨token, given, filled, _⟩ := carries
  rw [Settings.token_eq_some_iff.mpr ⟨given, filled⟩]
  exact Option.some_ne_none token

lemma bearer_eq_none_of_inScope {s : Settings} {f : Fetch} {group : Group}
    (absent : s.token = none) (scope : InScope s f group) : f.bearer = none := by
  cases group with
  | unauthenticated => exact scope.1
  | authenticated => exact absurd absent scope.1.token_ne_none
  | orchestration => exact absurd absent scope.1.token_ne_none

/-- An authenticated fetch of a rooted reference stays with the host under test. -/
lemma inScope_authenticated {s : Settings} {f : Fetch} {reference : String}
    (rooted : Url.Rooted reference) (asked : s.hostFetch reference true = .ok f) :
    InScope s f .authenticated := by
  obtain ⟨found, bearer_eq, carried⟩ := Settings.hostFetch_eq_ok asked
  obtain ⟨token, token_eq⟩ := Option.ne_none_iff_exists'.mp (carried rfl)
  exact ⟨carriesToken_of_eq (bearer_eq.symm.trans token_eq) token_eq,
    Url.homeOf_of_rooted rooted found⟩

/-- A fetch of a rooted reference on the orchestration host stays with that host. -/
lemma inScope_orchestration {s : Settings} {f : Fetch} {reference : String}
    (rooted : Url.Rooted reference) (asked : s.orchestrationFetch reference = .ok f) :
    InScope s f .orchestration := by
  obtain ⟨target, given, found, bearer_eq⟩ := Settings.orchestrationFetch_eq_ok asked
  obtain ⟨host_eq, _, _, token_eq⟩ := Settings.target_eq_some_iff.mp given
  exact ⟨carriesToken_of_eq token_eq bearer_eq, target.host,
    (Settings.present_eq_some_iff.mp host_eq).1, Url.homeOf_of_rooted rooted found⟩

lemma rooted_workspacePath (target : Orchestration) : Url.Rooted (Check.workspacePath target) := by
  have front : Url.Rooted "/api/workspaces/" := ⟨'a', _, rfl, by decide⟩
  exact ((front.append _).append _).append _

/-- The fetch of every check of a group is in the scope of that group, whatever the names in the
settings are. -/
lemma inScope_of_fetch {s : Settings} {id : Uuid} {group : Group} {check : Check} {f : Fetch}
    (member : check ∈ group.checks) (asked : check.fetch s id = .ok f) : InScope s f group := by
  cases group with
  | unauthenticated =>
    have plain : s.hostFetch "/status" false = .ok f ∨ s.hostFetch "/version" false = .ok f := by
      simp only [Group.checks, List.mem_cons, List.not_mem_nil, or_false] at member
      rcases member with rfl | rfl | rfl | rfl
      · exact .inl asked
      · exact .inl asked
      · exact .inr asked
      · exact .inr asked
    rcases plain with status | version
    · obtain ⟨found, bearer_eq, _⟩ := Settings.hostFetch_eq_ok status
      exact ⟨bearer_eq, .inl found⟩
    · obtain ⟨found, bearer_eq, _⟩ := Settings.hostFetch_eq_ok version
      exact ⟨bearer_eq, .inr found⟩
  | authenticated =>
    simp only [Group.checks, List.mem_cons, List.not_mem_nil, or_false] at member
    rcases member with rfl | rfl
    · cases workspace : s.requireWorkspace with
      | error verdict => simp [Check.fetch, workspace, bind, Except.bind] at asked
      | ok workspaceId =>
        have front : Url.Rooted "/job/v1/instance/" := ⟨'j', _, rfl, by decide⟩
        simp only [Check.fetch, workspace, bind, Except.bind] at asked
        exact inScope_authenticated (front.append workspaceId) asked
    · have front : Url.Rooted "/job/v1/" := ⟨'j', _, rfl, by decide⟩
      exact inScope_authenticated (front.append id.text) asked
  | orchestration =>
    cases given : s.requireTarget with
    | error verdict =>
      simp only [Group.checks, List.mem_cons, List.not_mem_nil, or_false] at member
      rcases member with rfl | rfl <;> simp [Check.fetch, given, bind, Except.bind] at asked
    | ok target =>
      have front := rooted_workspacePath target
      simp only [Group.checks, List.mem_cons, List.not_mem_nil, or_false] at member
      rcases member with rfl | rfl
      · simp only [Check.fetch, given, bind, Except.bind] at asked
        exact inScope_orchestration ((front.append _).append _) asked
      · simp only [Check.fetch, given, bind, Except.bind] at asked
        exact inScope_orchestration (front.append _) asked

/-- The call that validates a token: it goes to the token-info endpoint, without a bearer token. -/
def Validates (s : Settings) (f : Fetch) : Prop :=
  f.bearer = none ∧ ∃ endpoint token, Url.read s.tokenInfoUrl = .ok endpoint ∧
    s.userToken = some token ∧ f.url = TokenInfo.withParameter endpoint "access_token" token

lemma validates_of_fetch {s : Settings} {token : String} {f : Fetch}
    (given : s.token = some token) (asked : TokenInfo.fetch s.tokenInfoUrl token = .ok f) :
    Validates s f := by
  cases read : Url.read s.tokenInfoUrl with
  | error problem =>
    rw [TokenInfo.fetch_of_unreadable read] at asked
    cases asked
  | ok endpoint =>
    rw [TokenInfo.fetch_of_readable read] at asked
    cases asked
    exact ⟨rfl, endpoint, token, read, (Settings.token_eq_some_iff.mp given).1, rfl⟩

/-- A check of the group in the plan asks for the fetch. -/
def AskedBy (s : Settings) (ids : Nat → Uuid) (f : Fetch) (group : Group) : Prop :=
  ∃ (i : Nat) (check : Check), (Plan.ofSettings s).checks[i]? = some (group, check) ∧
    check.fetch s (ids i) = .ok f

lemma inScope_of_askedBy {s : Settings} {ids : Nat → Uuid} {f : Fetch} {group : Group}
    (asked : AskedBy s ids f group) : InScope s f group := by
  obtain ⟨i, check, at_i, fetched⟩ := asked
  exact inScope_of_fetch (Plan.mem_checks_iff.mp (List.mem_of_getElem? at_i)).2 fetched

/-- Each of the fetches is asked for by the plan, and is in the scope of every group that asks for
it. -/
def FromPlan (s : Settings) (ids : Nat → Uuid) (made : List Fetch) : Prop :=
  ∀ f ∈ made, (∃ group, AskedBy s ids f group) ∧ ∀ group, AskedBy s ids f group → InScope s f group

lemma fromPlan_of_sublist {s : Settings} {ids : Nat → Uuid} {made : List Fetch}
    (sub : made.Sublist ((Plan.ofSettings s).checks.mapIdx
      fun i item => item.2.asks s (ids i)).flatten) : FromPlan s ids made := by
  intro f member
  obtain ⟨asks, own, asked⟩ := List.mem_flatten.mp (sub.subset member)
  obtain ⟨i, inside, rfl⟩ := List.mem_mapIdx.mp own
  exact ⟨⟨_, i, _, List.getElem?_eq_getElem inside, Check.mem_asks_iff.mp asked⟩,
    fun _ => inScope_of_askedBy⟩

section Run
variable (settings : Settings) (service : Service) (ids : Nat → Uuid)

/-- Calls of a run that was given a token: the first one validates it, the others are made by
checks. -/
def ValidatesFirst (calls : List Fetch) : Prop :=
  calls = [] ∨ ∃ first later, calls = first :: later ∧ Validates settings first ∧
    FromPlan settings ids later

lemma fromPlan_nil : FromPlan settings ids [] := fromPlan_of_sublist (List.nil_sublist _)

lemma validatesFirst_of_refused {token : String} {fault : Fault} {calls : List Fetch}
    (given : settings.token = some token)
    (refused : TokenInfo.Refuses service [] settings.tokenInfoUrl token fault calls) :
    ValidatesFirst settings ids calls := by
  cases refused with
  | unreadable => exact .inl rfl
  | unanswered asked =>
    exact .inr ⟨_, [], rfl, validates_of_fetch given asked, fromPlan_nil settings ids⟩
  | rejected asked =>
    exact .inr ⟨_, [], rfl, validates_of_fetch given asked, fromPlan_nil settings ids⟩

/-- Every call of a run validates the token or is made by a check. -/
lemma run_calls :
    (settings.token = none ∧ FromPlan settings ids (run settings service ids).calls) ∨
      ∃ token, settings.token = some token ∧
        ValidatesFirst settings ids (run settings service ids).calls := by
  rcases validate_cases settings service with
    ⟨token, fault, calls, given, refused, validated⟩ | ⟨opening, opens, validated⟩
  · rw [run_of_refused settings service ids validated]
    exact .inr ⟨token, given, validatesFirst_of_refused settings service ids given refused⟩
  · obtain ⟨made, sub, calls_eq⟩ := walk_calls settings service ids (outset settings service opening) rfl
      (Plan.ofSettings settings).checks
    have run_eq : (run settings service ids).calls = opening ++ made := by
      rw [run_of_valid settings service ids validated]
      exact calls_eq
    have from_plan := fromPlan_of_sublist sub
    rw [run_eq]
    cases opens with
    | untokened absent => exact .inl ⟨absent, from_plan⟩
    | vouched given vouches =>
      exact .inr ⟨_, given, .inr ⟨_, made, rfl, validates_of_fetch given vouches.1, from_plan⟩⟩

/-- Without a token nothing is validated and no call carries one. With a token the first call, if
there is any, validates it without carrying it, and every later call keeps to the scope of the
check that makes it. -/
theorem token_keeps_to_scope :
    (settings.userToken = none ∨ settings.userToken = some "" →
      FromPlan settings ids (run settings service ids).calls ∧
        ∀ f ∈ (run settings service ids).calls, f.bearer = none) ∧
    ∀ token, settings.userToken = some token → token ≠ "" →
      ValidatesFirst settings ids (run settings service ids).calls := by
  rcases run_calls settings service ids with ⟨absent, from_plan⟩ | ⟨token, given, first⟩
  · refine ⟨fun _ => ⟨from_plan, fun f member => ?_⟩, fun token given filled => ?_⟩
    · obtain ⟨⟨group, asked⟩, in_scope⟩ := from_plan f member
      exact bearer_eq_none_of_inScope absent (in_scope group asked)
    · have present := Settings.token_eq_some_iff.mpr ⟨given, filled⟩
      rw [absent] at present
      cases present
  · refine ⟨fun missing => ?_, fun _ _ _ => first⟩
    have absent := Settings.token_eq_none_iff.mpr missing
    rw [given] at absent
    cases absent

end Run
end SmokeRun
end Shakedown
