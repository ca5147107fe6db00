import Shakedown.Proofs.Load.AppCalls

/-!
How the calls of a load run fail.

Whatever a call is answered, it fails on a reply that is no success with the status and body of the
reply, and on a body that has to be JSON and is not with what is wrong there. A failure never tells
another status than the service answered with, but in one case: the creation of a workspace that is
answered with a success without an identifier is said to have had status 200, whatever it had.
-/

namespace Shakedown.Load

/-- A call of the client whose answer has to be a success. -/
inductive ClientCall where
  | create (billingProject : String)
  | requestCbas (workspaceId : String)
  | appState (workspaceId : String) (app : App)
  | toApp (proxyUrl : String) (call : AppCall)

/-- What there is to say of a call if its result does not matter. -/
def plainly {α : Type} (made : Except Fault α × Trace) : Except Fault Unit × Trace :=
  (made.1.map fun _ => (), made.2)

namespace ClientCall

/-- What becomes of the call, and what has happened then. -/
def make (c : Client) (t : Trace) : ClientCall → Except Fault Unit × Trace
  | .create billingProject => plainly (c.createWorkspace billingProject t)
  | .requestCbas workspaceId => plainly (c.requestCbas workspaceId t)
  | .appState workspaceId app => plainly (c.appState workspaceId app t)
  | .toApp p (.upload workspaceId recordType tsv) =>
    plainly (c.uploadTsv p workspaceId recordType tsv t)
  | .toApp p (.write workspaceId record) => plainly (c.putRecord p workspaceId record t)
  | .toApp p (.read workspaceId record) => plainly (c.getRecord p workspaceId record t)
  | .toApp p (.submit request) => plainly (c.submitWorkflow p request t)

/-- What the call is named when it is refused. -/
def context : ClientCall → String
  | .create _ => "workspace creation"
  | .requestCbas _ => "CBAS app request"
  | .appState _ _ => "app listing"
  | .toApp _ (.upload _ _ _) => "TSV upload"
  | .toApp _ (.write _ _) => "record write"
  | .toApp _ (.read _ _) => "record read"
  | .toApp _ (.submit _) => "workflow submission"

/-- Whether the body of the answer has to be JSON. -/
def readsJson : ClientCall → Bool
  | .requestCbas _ => false
  | .toApp _ (.write _ _) => false
  | _ => true

def creates : ClientCall → Bool
  | .create _ => true
  | _ => false

/-- The request of the call is sent, and its answer comes through in whole. -/
def Answered (call : ClientCall) (c : Client) (t : Trace) (reply : Reply) : Prop :=
  ∃ r answer, (call.make c t).2.requests = t.requests ++ [r] ∧
    c.world.link t.requests r = .answer answer ∧ answer.reply = .ok reply

end ClientCall

/-- The reply has a status of success. -/
def Success (reply : Reply) : Prop := 200 ≤ reply.status ∧ reply.status ≤ 299

instance : DecidablePred Success := fun _ => inferInstanceAs (Decidable (_ ∧ _))

/-- The created workspace has this identifier. -/
def Identifies (created : Json) (id : String) : Prop :=
  created.get? "workspaceId" = some (.string id)

/-- The reply is a success in JSON that holds no identifier of a workspace. -/
structure Nameless (reply : Reply) : Prop where
  succeeds : Success reply
  unnamed : ∃ created, Json.parse reply.body = .ok created ∧ ∀ id, ¬ Identifies created id

namespace ClientCall
variable {call : ClientCall} {c : Client} {t : Trace} {reply : Reply}

/-- What comes of a call, by its reply. -/
inductive Comes (call : ClientCall) (reply : Reply) : Except Fault Unit → Prop
  | refused (refuses : ¬ Success reply) :
      Comes call reply (.error (.unexpectedStatus call.context reply.status reply.body))
  | unreadable {problem : Json.Problem} (succeeds : Success reply)
      (reads : call.readsJson = true) (bad : Json.parse reply.body = .error problem) :
      Comes call reply (.error (.decode problem))
  | nameless {created : Json} (succeeds : Success reply)
      (creates : call.creates = true) (read : Json.parse reply.body = .ok created)
      (unnamed : ∀ id, ¬ Identifies created id) :
      Comes call reply (.error (.unexpectedStatus "workspace creation" 200
        ("no workspaceId in " ++ created.text)))
  | through (succeeds : Success reply)
      (readable : call.readsJson = true → ∃ j, Json.parse reply.body = .ok j)
      (named : call.creates = true → ¬ Nameless reply) : Comes call reply (.ok ())

/-! Replies. -/

section Replies
variable {α : Type}

lemma expectSuccess_cases (context : String) (reply : Reply) :
    (¬ Success reply ∧ expectSuccess context reply =
      .error (.unexpectedStatus context reply.status reply.body)) ∨
    (Success reply ∧ expectSuccess context reply = .ok reply.body) := by
  unfold expectSuccess
  split
  · next good => exact .inr ⟨Reply.isSuccess_iff.mp good, rfl⟩
  · next bad => exact .inl ⟨mt Reply.isSuccess_iff.mpr bad, rfl⟩

lemma comes_of_success (f : String → α) (reads_none : call.readsJson = false)
    (creates_none : call.creates = false) :
    call.Comes reply (((expectSuccess call.context reply).map f).map fun _ => ()) := by
  rcases expectSuccess_cases call.context reply with ⟨refuses, refused⟩ | ⟨succeeds, accepted⟩
  · rw [refused]
    exact .refused refuses
  · rw [accepted]
    exact .through succeeds (by simp [reads_none]) (by simp [creates_none])

/-- A call that reads its answer as JSON goes on with it, if the reply is such a success. -/
lemma comes_of_json (next : Json → Except Fault α) (reads : call.readsJson = true)
    (went_on : ∀ j, Success reply → Json.parse reply.body = .ok j →
      call.Comes reply ((next j).map fun _ => ())) :
    call.Comes reply (((expectJson call.context reply).bind next).map fun _ => ()) := by
  unfold expectJson
  rcases expectSuccess_cases call.context reply with ⟨refuses, refused⟩ | ⟨succeeds, accepted⟩
  · rw [refused]
    exact .refused refuses
  · rw [accepted]
    cases read : Json.parse reply.body with
    | error problem =>
      simp only [Except.bind, Reply.json, read]
      exact .unreadable succeeds reads read
    | ok j =>
      simp only [Except.bind, Reply.json, read]
      exact went_on j succeeds read

lemma comes_of_creation (billingProject : String) (reply : Reply) :
    (create billingProject).Comes reply
      (((expectJson "workspace creation" reply).bind workspaceIdOf).map fun _ => ()) := by
  refine comes_of_json workspaceIdOf rfl ?_
  intro created succeeds read
  unfold workspaceIdOf
  split
  · next id found =>
    refine .through succeeds (fun _ => ⟨created, read⟩) ?_
    rintro _ ⟨_, other, also_read, unnamed⟩
    obtain rfl : created = other := Except.ok.inj (read.symm.trans also_read)
    exact unnamed id (Json.text?_eq_some_iff.mp found)
  · next missing =>
    refine .nameless succeeds rfl read ?_
    intro id found
    rw [Json.text?_eq_some_iff.mpr found] at missing
    cases missing

lemma comes_of_any_json (reads : call.readsJson = true) (creates_none : call.creates = false) :
    call.Comes reply ((expectJson call.context reply).map fun _ => ()) := by
  have bind_eq : expectJson call.context reply = (expectJson call.context reply).bind .ok := by
    cases expectJson call.context reply <;> rfl
  rw [bind_eq]
  refine comes_of_json _ reads ?_
  intro j succeeds read
  exact .through succeeds (fun _ => ⟨j, read⟩) (by simp [creates_none])

end Replies

/-! Calls. -/

section Calls
variable {α : Type} {draft : Except Fault Http.Request} {judge : Reply → Except Fault α}

/-- A call that was sent and answered is judged by its reply. -/
lemma call_of_answered {r : Http.Request} {answer : Http.Answer}
    (sent : (c.call draft judge t).2.requests = t.requests ++ [r])
    (linked : c.world.link t.requests r = .answer answer) (whole : answer.reply = .ok reply) :
    (c.call draft judge t).1 = judge reply := by
  rw [AppCall.requests_call] at sent
  obtain ⟨q, drafted, sendable⟩ := Option.bind_eq_some_iff.mp
    (Option.toList_eq_singleton_iff.mp (List.append_cancel_left sent))
  obtain rfl := AppCall.eq_ok_of_toOption drafted
  have prepared := AppCall.eq_ok_of_toOption sendable
  have judged : ((answer.reply.mapError Fault.http).bind judge) = judge reply := by
    rewrite [whole]
    rfl
  simp only [Client.call, Client.ask, Trace.send, Http.Link.perform, prepared, bind, Except.bind,
    linked, Http.Exchange.read]
  exact judged

/-- A call that a client makes comes to what its judgement of the reply does. -/
lemma comes_of_call {s : Trace} (made : call.make c t = plainly (c.call draft judge s))
    (same : s.requests = t.requests)
    (judged : ∀ reply, call.Comes reply ((judge reply).map fun _ => ()))
    (answered : call.Answered c t reply) : call.Comes reply (call.make c t).1 := by
  obtain ⟨r, answer, sent, linked, whole⟩ := answered
  rw [made, ← same] at sent
  rw [← same] at linked
  rw [made, plainly, call_of_answered sent linked whole]
  exact judged reply

/-- A call that is given up before it is sent is not answered. -/
lemma not_answered {fault : Fault} (unsent : call.make c t = (.error fault, t)) :
    ¬ call.Answered c t reply := by
  rintro ⟨r, answer, sent, _⟩
  rw [unsent] at sent
  exact List.cons_ne_nil r [] (List.append_right_eq_self.mp sent.symm)

end Calls

/-- A call that takes a file is given up before it is sent, or made like any other. -/
lemma uploadTsv_cases (c : Client) (p workspaceId recordType tsv : String) (t : Trace) :
    (∃ fault, c.uploadTsv p workspaceId recordType tsv t = (.error fault, t)) ∨
      ∃ draft, c.uploadTsv p workspaceId recordType tsv t =
        c.call draft (expectJson "TSV upload") t := by
  unfold Client.uploadTsv
  dsimp only
  split
  · exact .inl ⟨_, rfl⟩
  · split
    · exact .inl ⟨_, rfl⟩
    · exact .inl ⟨_, rfl⟩
    · exact .inr ⟨_, rfl⟩

lemma submitWorkflow_cases (c : Client) (p request : String) (t : Trace) :
    (∃ fault, c.submitWorkflow p request t = (.error fault, t)) ∨
      ∃ draft, c.submitWorkflow p request t =
        c.call draft (expectJson "workflow submission") t := by
  unfold Client.submitWorkflow
  split
  · exact .inl ⟨_, rfl⟩
  · exact .inr ⟨_, rfl⟩

lemma comes_of_answered (answered : call.Answered c t reply) :
    call.Comes reply (call.make c t).1 := by
  cases call with
  | create billingProject =>
    exact comes_of_call (s := t.draw.2) rfl rfl (comes_of_creation billingProject) answered
  | requestCbas workspaceId =>
    exact comes_of_call (s := t.draw.2) rfl rfl (fun _ => comes_of_success _ rfl rfl) answered
  | appState workspaceId app =>
    refine comes_of_call rfl rfl ?_ answered
    intro reply
    -- that an app is looked for in the listing does not matter to whether there is one
    have found_eq : ((expectJson "app listing" reply).map app.find).map (fun _ => ()) =
        (expectJson "app listing" reply).map fun _ => () := by
      cases expectJson "app listing" reply <;> rfl
    rw [found_eq]
    exact comes_of_any_json rfl rfl
  | toApp p call =>
    cases call with
    | upload workspaceId recordType tsv =>
      rcases uploadTsv_cases c p workspaceId recordType tsv t with ⟨fault, unsent⟩ | ⟨draft, made⟩
      · exact absurd answered (not_answered (congrArg plainly unsent))
      · exact comes_of_call (congrArg plainly made) rfl (fun _ => comes_of_any_json rfl rfl) answered
    | write workspaceId record =>
      exact comes_of_call rfl rfl (fun _ => comes_of_success _ rfl rfl) answered
    | read workspaceId record =>
      exact comes_of_call rfl rfl (fun _ => comes_of_any_json rfl rfl) answered
    | submit request =>
      rcases submitWorkflow_cases c p request t with ⟨fault, unsent⟩ | ⟨draft, made⟩
      · exact absurd answered (not_answered (congrArg plainly unsent))
      · exact comes_of_call (congrArg plainly made) rfl (fun _ => comes_of_any_json rfl rfl) answered

/-! Failures. -/

/-- The failure, if it is for the status of an answer, tells that status. -/
def TellsStatus (reply : Reply) (result : Except Fault Unit) : Prop :=
  ∀ context status body, result = .error (.unexpectedStatus context status body) →
    status = reply.status

lemma Comes.eq_of_refused {result : Except Fault Unit} (comes : call.Comes reply result)
    (refuses : ¬ Success reply) :
    result = .error (.unexpectedStatus call.context reply.status reply.body) := by
  cases comes with
  | refused => rfl
  | unreadable succeeds => exact absurd succeeds refuses
  | nameless succeeds => exact absurd succeeds refuses
  | through succeeds => exact absurd succeeds refuses

lemma Comes.eq_of_unreadable {result : Except Fault Unit} (comes : call.Comes reply result)
    (succeeds : Success reply) (reads : call.readsJson = true)
    {problem : Json.Problem} (bad : Json.parse reply.body = .error problem) :
    result = .error (.decode problem) := by
  cases comes with
  | refused refuses => exact absurd succeeds refuses
  | unreadable _ _ also_bad =>
    obtain rfl := Except.error.inj (bad.symm.trans also_bad)
    rfl
  | nameless _ _ read => cases bad.symm.trans read
  | through _ readable =>
    obtain ⟨j, read⟩ := readable reads
    cases bad.symm.trans read

lemma Comes.tellsStatus_iff {result : Except Fault Unit} (comes : call.Comes reply result) :
    TellsStatus reply result ↔
      (call.creates = true → Nameless reply → reply.status = 200) := by
  cases comes with
  | refused refuses =>
    refine iff_of_true ?_ fun _ nameless => absurd nameless.succeeds refuses
    rintro _ _ _ ⟨⟩
    rfl
  | unreadable _ _ bad =>
    refine iff_of_true nofun fun _ nameless => ?_
    obtain ⟨created, read, _⟩ := nameless.unnamed
    cases bad.symm.trans read
  | nameless succeeds creates read unnamed =>
    constructor
    · intro tells _ _
      exact (tells _ _ _ rfl).symm
    · rintro told _ _ _ ⟨⟩
      exact (told creates ⟨succeeds, _, read, unnamed⟩).symm
  | through _ _ named => exact iff_of_true nofun fun creates nameless => absurd nameless (named creates)

/-- A call that is answered fails on a refusal with the status and body of the answer, and on a body
that has to be JSON and is not as such. Its failure never tells another status than that of the
answer, unless it is a creation that succeeds with another status than 200 and names no workspace. -/
theorem answered_call_tells_status_iff {call : ClientCall} {c : Client} {t : Trace} {reply : Reply}
    (answered : call.Answered c t reply) :
    (¬ Success reply → (call.make c t).1 =
      .error (.unexpectedStatus call.context reply.status reply.body)) ∧
    (Success reply → call.readsJson = true →
      ∀ problem, Json.parse reply.body = .error problem →
        (call.make c t).1 = .error (.decode problem)) ∧
    (TellsStatus reply (call.make c t).1 ↔
      (call.creates = true → Nameless reply → reply.status = 200)) := by
  have comes := comes_of_answered answered
  refine ⟨comes.eq_of_refused, ?_, comes.tellsStatus_iff⟩
  intro succeeds reads problem bad
  exact comes.eq_of_unreadable succeeds reads bad

/-- A client to whom everything is answered with this status and body. -/
private def answeredWith (status : Nat) (body : List UInt8) : Client where
  world :=
    ⟨fun _ _ => .answer ⟨status, some body⟩, fun _ _ => .missing, fun _ => ⟨0⟩,
      fun _ _ => Fin.last 25⟩
  urls := ⟨"http://wsm.test", "http://rawls.test", "http://leo.test"⟩
  token := "s3cret"

/-- A creation that is refused tells the status of the refusal. -/
theorem refused_creation_tells_status :
    (create "my-billing").Answered (answeredWith 409 [0x6e, 0x6f]) {} ⟨409, "no"⟩ ∧
    ((create "my-billing").make (answeredWith 409 [0x6e, 0x6f]) {}).1 =
      .error (.unexpectedStatus "workspace creation" 409 "no") := by
  have answered :
      (create "my-billing").Answered (answeredWith 409 [0x6e, 0x6f]) {} ⟨409, "no"⟩ :=
    ⟨_, _, by with_unfolding_all rfl, rfl, rfl⟩
  exact ⟨answered, (answered_call_tells_status_iff answered).1 (by decide)⟩

/-- A creation that is answered with status 201 and names no workspace is told to have had 200. -/
theorem nameless_creation_tells_other_status :
    (create "my-billing").Answered (answeredWith 201 [0x7b, 0x7d]) {} ⟨201, "\x7b\x7d"⟩ ∧
    ((create "my-billing").make (answeredWith 201 [0x7b, 0x7d]) {}).1 =
      .error (.unexpectedStatus "workspace creation" 200 "no workspaceId in \x7b\x7d") ∧
    ¬ TellsStatus ⟨201, "\x7b\x7d"⟩
      ((create "my-billing").make (answeredWith 201 [0x7b, 0x7d]) {}).1 := by
  have told : ((create "my-billing").make (answeredWith 201 [0x7b, 0x7d]) {}).1 =
      .error (.unexpectedStatus "workspace creation" 200 "no workspaceId in \x7b\x7d") := by
    with_unfolding_all rfl
  refine ⟨⟨_, _, by with_unfolding_all rfl, rfl, rfl⟩, told, ?_⟩
  intro tells
  exact absurd (tells _ _ _ told) (by decide)

end ClientCall
end Shakedown.Load
