import Shakedown.Load.Client
import Shakedown.Proofs.Request

/-!
Calls to apps, and what they send.

A call asks for one path below the address of its app. It sends at most one request, with the token
and for that path: none if the path leads nowhere, a file cannot be read or the request cannot be
prepared.
-/

namespace Shakedown

namespace Http

/-- An address as it is asked for: a name in it becomes a credential of the request. -/
def askedUrl (u : Url) : Url := (Request.separateUser { url := u }).url

namespace Request

lemma separateUser_url (r : Request) : r.separateUser.url = askedUrl r.url :=
  separateUser_url_congr rfl

end Request
end Http

namespace Load

/-- A call to an app. -/
inductive AppCall where
  | upload (workspaceId recordType tsv : String)
  | write (workspaceId : String) (record : Record)
  | read (workspaceId : String) (record : Record)
  | submit (request : String)

namespace AppCall

/-- The path that the call asks for below the address of its app. -/
def path : AppCall → String
  | .upload workspaceId recordType _ =>
    "/" ++ workspaceId ++ "/tsv/" ++ recordsVersion ++ "/" ++ recordType
  | .write workspaceId record => recordPath workspaceId record
  | .read workspaceId record => recordPath workspaceId record
  | .submit _ => "/api/batch/v1/run_sets"

/-- What has happened once the call is made to the app at an address. -/
def after (c : Client) (p : String) (t : Trace) : AppCall → Trace
  | .upload workspaceId recordType tsv => (c.uploadTsv p workspaceId recordType tsv t).2
  | .write workspaceId record => (c.putRecord p workspaceId record t).2
  | .read workspaceId record => (c.getRecord p workspaceId record t).2
  | .submit request => (c.submitWorkflow p request t).2

/-- The request that the call is about to make, if it can read the file that it takes. -/
def draft? (c : Client) (t : Trace) (url : Url) : AppCall → Option Http.Request
  | .upload _ _ tsv => ((c.world.files t.actions tsv).openBytes.toOption.bind id).map fun bytes =>
      { url, method := .post, body := .file "records" (fileName tsv) bytes }
  | .write _ record => some { url, method := .put, body := .json record.requestBody.text }
  | .read _ _ => some { url }
  | .submit request => (c.world.files t.actions request).readText.toOption.map fun body =>
      { url, method := .post, acceptsJson := true, body := .json body }

/-- The request that the call sends, if it sends one. -/
def request? (c : Client) (p : String) (t : Trace) (call : AppCall) : Option Http.Request :=
  (appUrl p call.path).toOption.bind fun url =>
    (call.draft? c t url).bind fun draft => (c.authorize draft).prepare.toOption

variable {c : Client} {p : String} {t : Trace} {call : AppCall} {r : Http.Request}

/-- A draft is for the address it is made for, and names nobody. -/
lemma draft?_eq {url : Url} {draft : Http.Request} (drafted : call.draft? c t url = some draft) :
    draft.url = url ∧ draft.user = none := by
  cases call with
  | upload workspaceId recordType tsv =>
    obtain ⟨bytes, _, rfl⟩ := Option.map_eq_some_iff.mp drafted
    exact ⟨rfl, rfl⟩
  | write workspaceId record =>
    obtain rfl := Option.some.inj drafted
    exact ⟨rfl, rfl⟩
  | read workspaceId record =>
    obtain rfl := Option.some.inj drafted
    exact ⟨rfl, rfl⟩
  | submit request =>
    obtain ⟨body, _, rfl⟩ := Option.map_eq_some_iff.mp drafted
    exact ⟨rfl, rfl⟩

lemma eq_ok_of_toOption {ε α : Type} {x : Except ε α} {a : α} (some_eq : x.toOption = some a) :
    x = .ok a := by
  cases x with
  | error e => cases some_eq
  | ok b => exact congrArg Except.ok (Option.some.inj some_eq)

/-- What is sent has the token, and the address that the path leads to below the app. -/
lemma of_request? (sends : call.request? c p t = some r) :
    r.bearer = some c.token ∧ ∃ u, appUrl p call.path = .ok u ∧ r.url = Http.askedUrl u ∧
      r.user = u.authority.bind Http.userOf := by
  obtain ⟨u, found, sends⟩ := Option.bind_eq_some_iff.mp sends
  obtain ⟨draft, drafted, sends⟩ := Option.bind_eq_some_iff.mp sends
  obtain rfl := Http.Request.eq_separateUser_of_prepare (eq_ok_of_toOption sends)
  obtain ⟨rfl, anonymous⟩ := draft?_eq drafted
  have nobody : (c.authorize draft).user = none := anonymous
  refine ⟨Http.Request.separateUser_bearer _, _, eq_ok_of_toOption found, ?_, ?_⟩
  · exact Http.Request.separateUser_url _
  · exact Http.Request.separateUser_user nobody

lemma requests_call {α : Type} (c : Client) (draft : Except Fault Http.Request)
    (judge : Reply → Except Fault α) (t : Trace) : (c.call draft judge t).2.requests =
      t.requests ++ (draft.toOption.bind fun r => (c.authorize r).prepare.toOption).toList := by
  cases draft with
  | error fault => exact (List.append_nil _).symm
  | ok q =>
    cases prepared : (c.authorize q).prepare with
    | error trouble =>
      simp only [Client.call, Client.ask, Trace.send, prepared]
      simp [Except.toOption, prepared]
    | ok request =>
      simp only [Client.call, Client.ask, Trace.send, prepared]
      simp [Except.toOption, prepared, Trace.requests, Trace.add, List.filterMap_append]

/-- What a call with a draft for every address sends. -/
lemma requests_call_of_draft {α : Type} {judge : Reply → Except Fault α} {path : String}
    {draft : Url → Http.Request} (path_eq : call.path = path)
    (drafts : ∀ url, call.draft? c t url = some (draft url)) :
    (c.call ((appUrl p path).map draft) judge t).2.requests =
      t.requests ++ (call.request? c p t).toList := by
  rw [requests_call, request?, path_eq]
  cases appUrl p path with
  | error fault => rfl
  | ok url => simp only [Except.map, Except.toOption, Option.bind_some, drafts]

/-- A call that sends nothing adds nothing to what has been sent. -/
lemma requests_of_unsent (unsent : call.request? c p t = none) :
    t.requests = t.requests ++ (call.request? c p t).toList := by
  rw [unsent, Option.toList_none, List.append_nil]

lemma request?_of_no_draft (undrafted : ∀ url, call.draft? c t url = none) :
    call.request? c p t = none := by
  simp [request?, undrafted]

lemma requests_uploadTsv (workspaceId recordType tsv : String) :
    (c.uploadTsv p workspaceId recordType tsv t).2.requests =
      t.requests ++ ((AppCall.upload workspaceId recordType tsv).request? c p t).toList := by
  -- the call stands under a name: its path is not to be unfolded while the address is matched on
  obtain ⟨call, call_eq⟩ : ∃ call, call = AppCall.upload workspaceId recordType tsv := ⟨_, rfl⟩
  have path_eq :
      "/" ++ workspaceId ++ "/tsv/" ++ recordsVersion ++ "/" ++ recordType = call.path := by
    rw [call_eq]
    rfl
  have draft_eq : ∀ url, call.draft? c t url =
      ((c.world.files t.actions tsv).openBytes.toOption.bind id).map fun bytes =>
        { url, method := .post, body := .file "records" (fileName tsv) bytes } := by
    rw [call_eq]
    exact fun _ => rfl
  unfold Client.uploadTsv
  dsimp only
  rw [path_eq, ← call_eq]
  cases found : appUrl p call.path with
  | error fault =>
    refine requests_of_unsent ?_
    simp only [request?, found, Except.toOption, Option.bind_none]
  | ok url =>
    dsimp only
    cases opened : (c.world.files t.actions tsv).openBytes with
    | error fault =>
      refine requests_of_unsent (request?_of_no_draft fun url => ?_)
      rw [draft_eq, opened]
      rfl
    | ok content =>
      cases content with
      | none =>
        refine requests_of_unsent (request?_of_no_draft fun url => ?_)
        rw [draft_eq, opened]
        rfl
      | some bytes =>
        have drafts : ∀ url, call.draft? c t url = some
            { url, method := .post, body := .file "records" (fileName tsv) bytes } := fun url => by
          rw [draft_eq, opened]
          rfl
        have sent : (c.call ((appUrl p call.path).map fun url =>
            { url, method := .post, body := .file "records" (fileName tsv) bytes })
            (expectJson "TSV upload") t).2.requests = t.requests ++ (call.request? c p t).toList :=
          requests_call_of_draft rfl drafts
        rw [found] at sent
        exact sent

lemma requests_submitWorkflow (request : String) : (c.submitWorkflow p request t).2.requests =
    t.requests ++ ((AppCall.submit request).request? c p t).toList := by
  cases text : (c.world.files t.actions request).readText with
  | error why =>
    have undrafted : ∀ url, (AppCall.submit request).draft? c t url = none := fun url => by
      simp only [draft?, text]
      rfl
    simp only [Client.submitWorkflow, text]
    exact requests_of_unsent (request?_of_no_draft undrafted)
  | ok body =>
    have drafts : ∀ url, (AppCall.submit request).draft? c t url =
        some { url, method := .post, acceptsJson := true, body := .json body } := fun url => by
      simp only [draft?, text]
      rfl
    simp only [Client.submitWorkflow, text]
    exact requests_call_of_draft rfl drafts

/-- What has been sent once a call is over: what had been sent before, and the call's request. -/
lemma requests_after (c : Client) (p : String) (t : Trace) (call : AppCall) :
    (call.after c p t).requests = t.requests ++ (call.request? c p t).toList := by
  cases call with
  | upload workspaceId recordType tsv => exact requests_uploadTsv workspaceId recordType tsv
  | write workspaceId record =>
    have drafts : ∀ url, (AppCall.write workspaceId record).draft? c t url =
        some { url, method := .put, body := .json record.requestBody.text } := fun _ => rfl
    exact requests_call_of_draft rfl drafts
  | read workspaceId record =>
    have drafts : ∀ url, (AppCall.read workspaceId record).draft? c t url = some { url } :=
      fun _ => rfl
    exact requests_call_of_draft rfl drafts
  | submit request => exact requests_submitWorkflow request

end AppCall
end Load
end Shakedown
