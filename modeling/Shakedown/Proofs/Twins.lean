import Shakedown.Http.Link
import Shakedown.Proofs.Plan
import Shakedown.Proofs.SmokeRun

/-!
Runs that differ in the user token alone.

Two runs are twins if their settings differ in the user token alone and their networks treat
requests alike that differ in it alone. Their plans are the same, and checks that both carry out
come to the same in both: a bearer token decides what is answered, but shows in no verdict and is
not logged. The invariant keeps what the two have cached, sent, announced and logged in step; their
logs differ in the replies about the tokens alone.
-/

namespace Shakedown

/-- The settings with another user token. -/
def Settings.withToken (s : Settings) (token : String) : Settings :=
  { s with userToken := some token }

section Twins
variable (endpoint one other : String)

/-- Bearer tokens of twin fetches: none in either, or to each its own. -/
inductive BearerTwins : Option String → Option String → Prop
  | bare : BearerTwins none none
  | each : BearerTwins (some one) (some other)

/-- Fetches that differ in the user token alone: those of one check, or those that validate it. -/
inductive Fetch.Twins : Fetch → Fetch → Prop
  | check {url : Url} {bearer bearer' : Option String}
      (bearers : BearerTwins one other bearer bearer') : Fetch.Twins ⟨url, bearer⟩ ⟨url, bearer'⟩
  | validation {f f' : Fetch} (asked : TokenInfo.fetch endpoint one = .ok f)
      (asked' : TokenInfo.fetch endpoint other = .ok f') : Fetch.Twins f f'

/-- Entries that twin runs log: the same in both, or alike replies about their tokens. -/
inductive Log.Entry.Twins : Log.Entry → Log.Entry → Prop
  | same (e : Log.Entry) : Log.Entry.Twins e e
  | validation {f f' : Fetch} (asked : TokenInfo.fetch endpoint one = .ok f)
      (asked' : TokenInfo.fetch endpoint other = .ok f') (status : Nat) :
      Log.Entry.Twins (.got f.url status false) (.got f'.url status false)

/-- Requests that twin fetches put on the network. -/
def Http.Request.Twins (r r' : Http.Request) : Prop :=
  ∃ f f', Fetch.Twins endpoint one other f f' ∧ (Http.Request.ofFetch f).prepare = .ok r ∧
    (Http.Request.ofFetch f').prepare = .ok r'

/-- Networks that make the same of twin requests after twin pasts: the same answer, or the same
failure to connect. -/
def Http.Link.Twins (link link' : Http.Link) : Prop :=
  ∀ earlier earlier' r r', List.Forall₂ (Http.Request.Twins endpoint one other) earlier earlier' →
    Http.Request.Twins endpoint one other r r' → link earlier r = link' earlier' r'

end Twins

variable {endpoint one other : String}

lemma Log.Entry.Twins.refl_all (log : List Log.Entry) :
    List.Forall₂ (Log.Entry.Twins endpoint one other) log log :=
  List.forall₂_same.mpr fun e _ => .same e

lemma BearerTwins.isSome_eq {b b' : Option String} (bs : BearerTwins one other b b') :
    b.isSome = b'.isSome := by
  cases bs <;> rfl

lemma BearerTwins.eq_iff {b b' d d' : Option String} (bs : BearerTwins one other b b')
    (ds : BearerTwins one other d d') : b = d ↔ b' = d' := by
  cases bs <;> cases ds <;> simp

namespace Http

/-- A bearer token that a header may hold does not decide whether a request can be sent. -/
lemma Request.prepare_bearer (url : Url) {bearer : Option String}
    (fit : bearer.all isHeaderText = true) :
    (Request.ofFetch ⟨url, bearer⟩).prepare =
      (Request.ofFetch ⟨url, none⟩).prepare.map fun r => { r with bearer } := by
  cases user : url.authority.bind userOf <;>
    simp only [Request.prepare, Request.separateUser, Request.ofFetch, user, fit, Option.all_none,
      Bool.not_true, Bool.false_eq_true, if_false] <;>
    split <;> try split
  all_goals rfl

lemma sentFor_append (earlier : List Fetch) (f : Fetch) :
    sentFor (earlier ++ [f]) = sentFor earlier ++ (Request.ofFetch f).prepare.toOption.toList := by
  cases sent : (Request.ofFetch f).prepare.toOption <;> simp [sentFor, sent]

lemma service_of_unprepared {link : Link} {f : Fetch} {trouble : Trouble}
    (unsent : (Request.ofFetch f).prepare = .error trouble) (earlier : List Fetch) :
    link.service earlier f = .error (.http trouble) := by
  simp only [Link.service, Link.perform, unsent]
  rfl

/-- What a service makes of an exchange. -/
def Exchange.outcome (url : Url) (e : Exchange) : Except Fault Reply :=
  ((e.read url).bind Answer.reply).mapError .http

lemma service_of_prepared {link : Link} {f : Fetch} {r : Request}
    (sent : (Request.ofFetch f).prepare = .ok r) (earlier : List Fetch) :
    link.service earlier f = (link (sentFor earlier) r).outcome r.url := by
  simp only [Link.service, Link.perform, sent]
  rfl

section Service
variable {link link' : Link} {earlier earlier' : List Fetch}

/-- Twin networks answer twin fetches of a check alike, and their pasts stay twins. -/
lemma service_check (alike : Link.Twins endpoint one other link link')
    (pasts : List.Forall₂ (Request.Twins endpoint one other) (sentFor earlier) (sentFor earlier'))
    (fit : isHeaderText one = true) (fit' : isHeaderText other = true) (url : Url)
    {bearer bearer' : Option String} (bearers : BearerTwins one other bearer bearer') :
    link.service earlier ⟨url, bearer⟩ = link'.service earlier' ⟨url, bearer'⟩ ∧
      List.Forall₂ (Request.Twins endpoint one other)
        (sentFor (earlier ++ [⟨url, bearer⟩])) (sentFor (earlier' ++ [⟨url, bearer'⟩])) := by
  have fits : bearer.all isHeaderText = true ∧ bearer'.all isHeaderText = true := by
    cases bearers <;> simp [fit, fit']
  have here := Request.prepare_bearer url fits.1
  have there := Request.prepare_bearer url fits.2
  cases bare : (Request.ofFetch ⟨url, none⟩).prepare with
  | error trouble =>
    rw [bare] at here there
    rw [service_of_unprepared here, service_of_unprepared there, sentFor_append, sentFor_append,
      here, there]
    exact ⟨rfl, List.rel_append pasts .nil⟩
  | ok r =>
    rw [bare] at here there
    have twins : Request.Twins endpoint one other { r with bearer } { r with bearer := bearer' } :=
      ⟨_, _, .check bearers, here, there⟩
    rw [service_of_prepared here, service_of_prepared there, sentFor_append, sentFor_append,
      here, there, alike _ _ _ _ pasts twins]
    exact ⟨rfl, List.rel_append pasts (.cons twins .nil)⟩

end Service
end Http

/-- Callers that have kept the same replies for twin fetches and whose calls are twins. -/
structure Caller.Twins (endpoint one other : String) (c c' : Caller) : Prop where
  entries : List.Forall₂ (fun e e' => e.1.1 = e'.1.1 ∧ BearerTwins one other e.1.2 e'.1.2 ∧
    e.2 = e'.2) c.cache.entries c'.cache.entries
  sent : List.Forall₂ (Http.Request.Twins endpoint one other)
    (Http.sentFor c.calls) (Http.sentFor c'.calls)

namespace Caller.Twins
variable {c c' : Caller}

lemma find?_eq (twins : Caller.Twins endpoint one other c c') (url : Url)
    {bearer bearer' : Option String} (bearers : BearerTwins one other bearer bearer') :
    c.cache.find? ⟨url, bearer⟩ = c'.cache.find? ⟨url, bearer'⟩ := by
  have entries := twins.entries
  unfold ReplyCache.find? ReplyCache.keyOf
  generalize c.cache.entries = replies, c'.cache.entries = replies' at entries
  induction entries with
  | nil => rfl
  | @cons e e' rest rest' same _ ih =>
    obtain ⟨⟨text, kept⟩, reply⟩ := e
    obtain ⟨⟨text', kept'⟩, reply'⟩ := e'
    obtain ⟨rfl, own, rfl⟩ := same
    have keys : ((url.text, bearer) == (text, kept)) = ((url.text, bearer') == (text, kept')) := by
      rw [Bool.eq_iff_iff, beq_iff_eq, beq_iff_eq, Prod.mk.injEq, Prod.mk.injEq,
        bearers.eq_iff own]
    rw [List.lookup_cons, List.lookup_cons, keys, ih]

/-- Twin fetches of a check through twin callers of twin networks come to the same. -/
lemma fetch (twins : Caller.Twins endpoint one other c c') {link link' : Http.Link}
    (alike : Http.Link.Twins endpoint one other link link') (fit : Http.isHeaderText one = true)
    (fit' : Http.isHeaderText other = true) (url : Url) {bearer bearer' : Option String}
    (bearers : BearerTwins one other bearer bearer') :
    (c.fetch link.service ⟨url, bearer⟩).1 = (c'.fetch link'.service ⟨url, bearer'⟩).1 ∧
      Caller.Twins endpoint one other (c.fetch link.service ⟨url, bearer⟩).2
        (c'.fetch link'.service ⟨url, bearer'⟩).2 := by
  have found := twins.find?_eq url bearers
  cases kept : c.cache.find? ⟨url, bearer⟩ with
  | some reply =>
    rw [fetch_of_kept _ kept, fetch_of_kept _ (found.symm.trans kept)]
    exact ⟨rfl, twins⟩
  | none =>
    have new := found.symm.trans kept
    obtain ⟨answers, sent⟩ := Http.service_check alike twins.sent fit fit' url bearers
    cases answer : link.service c.calls ⟨url, bearer⟩ with
    | ok reply =>
      rw [fetch_of_reply kept answer, fetch_of_reply new (answers.symm.trans answer)]
      exact ⟨rfl, .cons ⟨rfl, bearers, rfl⟩ twins.entries, sent⟩
    | error fault =>
      rw [fetch_of_fault kept answer, fetch_of_fault new (answers.symm.trans answer)]
      exact ⟨rfl, twins.entries, sent⟩

/-- Twin callers log the same of twin fetches of a check. -/
lemma log_eq (twins : Caller.Twins endpoint one other c c') (url : Url)
    {bearer bearer' : Option String} (bearers : BearerTwins one other bearer bearer')
    (result : Except Fault Reply) :
    c.log ⟨url, bearer⟩ result = c'.log ⟨url, bearer'⟩ result := by
  have answers : Log.answered ⟨url, bearer⟩ result = Log.answered ⟨url, bearer'⟩ result := by
    cases result with
    | error fault => rfl
    | ok reply => simp only [Log.answered, bearers.isSome_eq]
  unfold Caller.log
  rw [twins.find?_eq url bearers, answers]

end Caller.Twins

/-- What a check asks in twin runs: nothing in either, with one verdict, or twin fetches. -/
inductive Check.AsksTwins (one other : String) :
    Except Verdict Fetch → Except Verdict Fetch → Prop
  | nothing (verdict : Verdict) : AsksTwins one other (.error verdict) (.error verdict)
  | fetch (url : Url) {bearer bearer' : Option String}
      (bearers : BearerTwins one other bearer bearer') :
      AsksTwins one other (.ok ⟨url, bearer⟩) (.ok ⟨url, bearer'⟩)

namespace Settings
variable {s : Settings} (filled : one ≠ "") (filled' : other ≠ "")

lemma token_withToken {token : String} (filled : token ≠ "") :
    (s.withToken token).token = some token := token_eq_some_iff.mpr ⟨rfl, filled⟩

lemma target_withToken {token : String} (filled : token ≠ "") :
    (s.withToken token).target = (present s.orchestration.host).bind fun host =>
      (present s.orchestration.workspaceNamespace).bind fun space =>
        (present s.orchestration.workspaceName).map fun name => ⟨host, space, name, token⟩ := by
  simp only [target, token_withToken filled, Option.bind_eq_bind, Option.bind_some,
    Option.map_eq_bind]
  rfl

include filled filled'

/-- Twin settings name the same place for import jobs, if they name one. -/
lemma target_twins :
    ((s.withToken one).target = none ∧ (s.withToken other).target = none) ∨
      ∃ host space name, (s.withToken one).target = some ⟨host, space, name, one⟩ ∧
        (s.withToken other).target = some ⟨host, space, name, other⟩ := by
  rw [target_withToken filled, target_withToken filled']
  cases present s.orchestration.host with
  | none => exact .inl ⟨rfl, rfl⟩
  | some host =>
    cases present s.orchestration.workspaceNamespace with
    | none => exact .inl ⟨rfl, rfl⟩
    | some space =>
      cases present s.orchestration.workspaceName with
      | none => exact .inl ⟨rfl, rfl⟩
      | some name => exact .inr ⟨host, space, name, rfl, rfl⟩

lemma hostFetch_twins (reference : String) (authenticated : Bool) :
    Check.AsksTwins one other ((s.withToken one).hostFetch reference authenticated)
      ((s.withToken other).hostFetch reference authenticated) := by
  have host (token : String) : (s.withToken token).host = s.host := rfl
  unfold hostFetch
  rw [host, host]
  cases Address.resolve s.host reference with
  | error fault => exact .nothing _
  | ok url =>
    cases authenticated with
    | false => exact .fetch url .bare
    | true =>
      simp only [requireToken, token_withToken filled, token_withToken filled']
      exact .fetch url .each

lemma orchestrationFetch_twins (reference : String) :
    Check.AsksTwins one other ((s.withToken one).orchestrationFetch reference)
      ((s.withToken other).orchestrationFetch reference) := by
  rcases target_twins filled filled' (s := s) with ⟨none_here, none_there⟩ |
    ⟨host, space, name, here, there⟩
  · simp only [orchestrationFetch, requireTarget, none_here, none_there]
    exact .nothing _
  · simp only [orchestrationFetch, requireTarget, here, there, bind, Except.bind]
    cases Address.resolve host reference with
    | error fault => exact .nothing _
    | ok url => exact .fetch url .each

end Settings

namespace Check
variable {s : Settings}

lemma fetch_twins (filled : one ≠ "") (filled' : other ≠ "") (id : Uuid) (check : Check) :
    AsksTwins one other (check.fetch (s.withToken one) id)
      (check.fetch (s.withToken other) id) := by
  have workspace (token : String) : (s.withToken token).requireWorkspace = s.requireWorkspace := rfl
  cases check with
  | jobListing =>
    simp only [fetch, workspace, bind, Except.bind]
    cases s.requireWorkspace with
    | error verdict => exact .nothing verdict
    | ok workspaceId => exact Settings.hostFetch_twins filled filled' _ true
  | randomImportJob | importJobListing =>
    rcases Settings.target_twins filled filled' (s := s) with ⟨none_here, none_there⟩ |
      ⟨host, space, name, here, there⟩
    · simp only [fetch, Settings.requireTarget, none_here, none_there, bind, Except.bind]
      exact .nothing _
    · simp only [fetch, Settings.requireTarget, here, there, bind, Except.bind]
      exact Settings.orchestrationFetch_twins filled filled' _
  | _ =>
    simp only [fetch]
    exact Settings.hostFetch_twins filled filled' _ _

end Check

/-- Runs whose settings differ in the user token alone, over networks that do not tell the tokens
apart. Both tokens are there, and may stand in a header. -/
structure SmokeRun.Twins (s : Settings) (one other : String) (link link' : Http.Link) : Prop where
  filled : one ≠ ""
  filled' : other ≠ ""
  fit : Http.isHeaderText one = true
  fit' : Http.isHeaderText other = true
  alike : Http.Link.Twins s.tokenInfoUrl one other link link'

namespace SmokeRun
variable {s : Settings} {link link' : Http.Link}

lemma check_twins (twins : Twins s one other link link') {c c' : Caller}
    (callers : Caller.Twins s.tokenInfoUrl one other c c') (id : Uuid) (check : Check) :
    (check.run (s.withToken one) link.service id c).1 =
        (check.run (s.withToken other) link'.service id c').1 ∧
      check.log (s.withToken one) link.service id c =
        check.log (s.withToken other) link'.service id c' ∧
      Caller.Twins s.tokenInfoUrl one other (check.run (s.withToken one) link.service id c).2
        (check.run (s.withToken other) link'.service id c').2 := by
  have asks := Check.fetch_twins (s := s) twins.filled twins.filled' id check
  generalize here : check.fetch (s.withToken one) id = asked,
    there : check.fetch (s.withToken other) id = asked' at asks
  cases asks with
  | nothing verdict =>
    rw [Check.run_of_unasked here, Check.run_of_unasked there]
    refine ⟨rfl, ?_, callers⟩
    simp only [Check.log, here, there]
  | fetch url bearers =>
    obtain ⟨same, next⟩ := callers.fetch twins.alike twins.fit twins.fit' url bearers
    rw [Check.run_of_asked here, Check.run_of_asked there, same]
    refine ⟨rfl, ?_, next⟩
    simp only [Check.log, here, there, same]
    exact callers.log_eq url bearers _

/-- Twin runs that have come equally far, with the same to show for it. -/
structure Progress.Twins (endpoint one other : String) (p p' : Progress) : Prop where
  results_eq : p.results = p'.results
  events_eq : p.events = p'.events
  callers : Caller.Twins endpoint one other p.caller p'.caller
  logs : List.Forall₂ (Log.Entry.Twins endpoint one other) p.log p'.log

lemma walk_twins (twins : Twins s one other link link') (ids : Nat → Uuid) {start start' : Progress}
    (starts : Progress.Twins s.tokenInfoUrl one other start start')
    (items : List (Group × Check)) :
    Progress.Twins s.tokenInfoUrl one other
      (walk (s.withToken one) link.service ids start items)
      (walk (s.withToken other) link'.service ids start' items) := by
  induction items using List.reverseRecOn with
  | nil => exact starts
  | append_singleton items item ih =>
    obtain ⟨results_eq, events_eq, callers, logs⟩ := ih
    rw [walk_concat, walk_concat, step_eq, step_eq, logInTurn, logInTurn, inTurn, inTurn,
      ← results_eq, ← events_eq]
    obtain ⟨verdict_eq, log_eq, next⟩ := check_twins twins callers
      (ids (walk (s.withToken one) link.service ids start items).results.length) item.2
    refine ⟨by rw [verdict_eq], by rw [verdict_eq], next, ?_⟩
    rw [verdict_eq, log_eq]
    exact List.rel_append logs (Log.Entry.Twins.refl_all _)

lemma plan_twins (twins : Twins s one other link link') :
    Plan.ofSettings (s.withToken one) = Plan.ofSettings (s.withToken other) := by
  have authenticated : (s.withToken one).isAuthenticated = (s.withToken other).isAuthenticated := by
    simp only [Settings.isAuthenticated, Settings.token_withToken twins.filled,
      Settings.token_withToken twins.filled']
    rfl
  have target : (s.withToken one).target.isSome = (s.withToken other).target.isSome := by
    rcases Settings.target_twins (s := s) twins.filled twins.filled' with ⟨here, there⟩ |
      ⟨host, space, name, here, there⟩
    · rw [here, there]
    · rw [here, there]; rfl
  have wants : (s.withToken one).wantsOrchestration = (s.withToken other).wantsOrchestration := rfl
  simp only [Plan.ofSettings, Plan.authenticatedPart, Plan.orchestrationPart, authenticated, target,
    wants]

end SmokeRun
end Shakedown
