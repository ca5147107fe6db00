import Shakedown.Proofs.Log
import Shakedown.Proofs.Request
import Shakedown.Proofs.Twins

/-!
What a smoke run tells of the user token.

A reply about the token decides how its validation ends, and the token itself does not. So twin
runs, whose questions about their tokens are answered, end the same and report the same. But the
address of such a question holds the token, and it shows either way: a question that is not answered
is named in the fault that stops the run, and an answer is logged with the address that gave it. The
log is written only for an operator who asks for more than warnings.
-/

namespace Shakedown

namespace Url

lemma text_of_query {u : Url} {q : String} (query_eq : u.query = some q) :
    ∃ front back, u.text = front ++ q ++ back := by
  refine ⟨u.scheme ++ ":" ++ u.authorityText ++ u.path.text ++ "?", tailText none u.fragment, ?_⟩
  simp only [text, tailText, query_eq, String.append_assoc, String.empty_append]

end Url

namespace Http

section Perform
variable {link : Link} {earlier : List Request} {r : Request}

lemma perform_eq_ok {answer : Answer} (performed : link.perform earlier r = .ok answer) :
    ∃ sent, r.prepare = .ok sent ∧ link earlier sent = .answer answer := by
  cases prepared : r.prepare with
  | error trouble =>
    simp only [Link.perform, prepared] at performed
    cases performed
  | ok sent =>
    simp only [Link.perform, prepared, bind, Except.bind] at performed
    cases exchange : link earlier sent with
    | unreachable causes => rw [exchange] at performed; cases performed
    | answer found => rw [exchange] at performed; cases performed; exact ⟨sent, rfl, exchange⟩

/-- A request without a bearer token that is not answered is named by its address. -/
lemma perform_error_names {trouble : Trouble} (bare : r.bearer = none)
    (failed : link.perform earlier r = .error trouble) :
    ∃ lead, trouble.message = lead ++ r.separateUser.url.text ++ ")" := by
  rcases Request.prepare_bare bare with sent | unsent | unsent
  · simp only [Link.perform, sent, bind, Except.bind] at failed
    cases exchange : link earlier r.separateUser with
    | answer found => rw [exchange] at failed; cases failed
    | unreachable causes =>
      rw [exchange] at failed
      cases failed
      exact ⟨"error sending request for url (", rfl⟩
  · simp only [Link.perform, unsent] at failed
    cases failed
    exact ⟨"builder error for url (", rfl⟩
  · simp only [Link.perform, unsent] at failed
    cases failed
    exact ⟨"builder error for url (", rfl⟩

end Perform
end Http

namespace TokenInfo

/-- The text of a token as a parameter of a query. -/
def parameterText (token : String) : String :=
  "access_token=" ++ String.ofList (Text.Form.encode token.toList)

/-- The address that asks about a token ends its query with the token. -/
lemma query_of_fetch {endpoint token : String} {f : Fetch} (asked : fetch endpoint token = .ok f) :
    f.bearer = none ∧ ∃ front, f.url.query = some (front ++ parameterText token) := by
  cases read : Url.read endpoint with
  | error problem => rw [fetch_of_unreadable read] at asked; cases asked
  | ok url =>
    rw [fetch_of_readable read] at asked
    cases asked
    have name : Text.Form.encode "access_token".toList = "access_token".toList := by decide
    have spelled (front : List Char) : front ++ "access_token".toList ++ '=' ::
        Text.Form.encode token.toList =
          front ++ ("access_token=".toList ++ Text.Form.encode token.toList) :=
      List.append_assoc _ _ _
    refine ⟨rfl, String.ofList (if (url.query.getD "").toList = [] then []
      else (url.query.getD "").toList ++ ['&']), congrArg some ?_⟩
    rw [Text.Form.append, name, spelled, String.ofList_append, String.ofList_append,
      String.ofList_toList, parameterText]

end TokenInfo

namespace SmokeRun

/-- What becomes of the question about a token; nothing if the endpoint is no address. -/
def answerAbout (s : Settings) (link : Http.Link) (token : String) :
    Option (Except Http.Trouble Http.Answer) :=
  (TokenInfo.fetch s.tokenInfoUrl token).toOption.map fun f => link.perform [] (.ofFetch f)

/-- The token-info endpoint is asked about the token, and no answer comes of it. -/
def Unanswered (s : Settings) (link : Http.Link) (token : String) : Prop :=
  ∃ trouble, answerAbout s link token = some (.error trouble)

variable {s : Settings} {one other : String} {link link' : Http.Link}

lemma answerAbout_of_asked {token : String} {f : Fetch}
    (asked : TokenInfo.fetch s.tokenInfoUrl token = .ok f) :
    answerAbout s link token = some (link.perform [] (.ofFetch f)) := by
  simp only [answerAbout, asked]
  rfl

lemma exists_answer {token : String} {f : Fetch}
    (asked : TokenInfo.fetch s.tokenInfoUrl token = .ok f) (answered : ¬ Unanswered s link token) :
    ∃ answer, link.perform [] (.ofFetch f) = .ok answer := by
  cases performed : link.perform [] (.ofFetch f) with
  | ok answer => exact ⟨answer, rfl⟩
  | error trouble =>
    exact absurd ⟨trouble, by rw [answerAbout_of_asked asked, performed]⟩ answered

lemma validationLog_withToken {token : String} (filled : token ≠ "") (service : Service) :
    validationLog (s.withToken token) service =
      TokenInfo.log service [] s.tokenInfoUrl token := by
  simp only [validationLog, Settings.token_withToken filled]
  rfl

lemma validate_withToken {token : String} (filled : token ≠ "") (service : Service) :
    validate (s.withToken token) service =
      TokenInfo.validate service [] s.tokenInfoUrl token := by
  simp only [validate, Settings.token_withToken filled]
  rfl

/-- What is answered about a token decides its validation, and the token itself does not. -/
lemma validate_twins (twins : Twins s one other link link') (answered : ¬ Unanswered s link one)
    (answered' : ¬ Unanswered s link' other) :
    ∃ result calls calls', validate (s.withToken one) link.service = (result, calls) ∧
      validate (s.withToken other) link'.service = (result, calls') ∧
      List.Forall₂ (Http.Request.Twins s.tokenInfoUrl one other)
        (Http.sentFor calls) (Http.sentFor calls') ∧
      List.Forall₂ (Log.Entry.Twins s.tokenInfoUrl one other)
        (validationLog (s.withToken one) link.service)
        (validationLog (s.withToken other) link'.service) := by
  rw [validate_withToken twins.filled, validate_withToken twins.filled',
    validationLog_withToken twins.filled, validationLog_withToken twins.filled']
  cases read : Url.read s.tokenInfoUrl with
  | error problem =>
    rw [TokenInfo.validate_of_unreadable read, TokenInfo.validate_of_unreadable read]
    rw [TokenInfo.log_of_unreadable read, TokenInfo.log_of_unreadable read]
    exact ⟨_, [], [], rfl, rfl, .nil, .nil⟩
  | ok url =>
    have asked := TokenInfo.fetch_of_readable read one
    have asked' := TokenInfo.fetch_of_readable read other
    obtain ⟨answer, performed⟩ := exists_answer asked answered
    obtain ⟨answer', performed'⟩ := exists_answer asked' answered'
    obtain ⟨r, sent, brought⟩ := Http.perform_eq_ok performed
    obtain ⟨r', sent', brought'⟩ := Http.perform_eq_ok performed'
    have requests : Http.Request.Twins s.tokenInfoUrl one other r r' :=
      ⟨_, _, .validation asked asked', sent, sent'⟩
    obtain rfl : answer = answer' := by
      have exchange := twins.alike [] [] r r' .nil requests
      rw [brought, brought'] at exchange
      exact Http.Exchange.answer.inj exchange
    have here : link.service [] _ = answer.reply.mapError .http :=
      (Http.service_of_prepared sent []).trans (congrArg (Http.Exchange.outcome r.url) brought)
    have there : link'.service [] _ = answer.reply.mapError .http :=
      (Http.service_of_prepared sent' []).trans (congrArg (Http.Exchange.outcome r'.url) brought')
    rw [TokenInfo.validate_of_asked asked, TokenInfo.validate_of_asked asked',
      TokenInfo.log_of_asked asked, TokenInfo.log_of_asked asked', here, there]
    refine ⟨_, _, _, rfl, rfl, ?_, ?_⟩
    · rw [Http.sentFor_append, Http.sentFor_append, sent, sent']
      exact .cons requests .nil
    · cases answer.reply.mapError Fault.http with
      | error fault => exact .nil
      | ok reply => exact .cons (.validation asked asked' reply.status) (.cons (.same _) .nil)

/-- Twin runs whose questions are answered end alike, announce the same and log alike. -/
lemma run_twins (twins : Twins s one other link link') (answered : ¬ Unanswered s link one)
    (answered' : ¬ Unanswered s link' other) (ids : Nat → Uuid) :
    (run (s.withToken one) link.service ids).outcome =
        (run (s.withToken other) link'.service ids).outcome ∧
      (run (s.withToken one) link.service ids).events =
        (run (s.withToken other) link'.service ids).events ∧
      List.Forall₂ (Log.Entry.Twins s.tokenInfoUrl one other)
        (run (s.withToken one) link.service ids).log
        (run (s.withToken other) link'.service ids).log := by
  obtain ⟨result, calls, calls', here, there, sent, logs⟩ :=
    validate_twins twins answered answered'
  cases result with
  | error fault =>
    rw [run_of_refused _ _ _ here, run_of_refused _ _ _ there]
    exact ⟨rfl, rfl, logs⟩
  | ok _ =>
    rw [run_of_valid _ _ _ here, run_of_valid _ _ _ there, ← plan_twins twins]
    have starts : Progress.Twins s.tokenInfoUrl one other
        (outset (s.withToken one) link.service calls)
        (outset (s.withToken other) link'.service calls') := by
      refine ⟨rfl, by rw [outset, outset, plan_twins twins], ⟨.nil, sent⟩, ?_⟩
      rw [outset, outset, plan_twins twins]
      exact List.rel_append logs (Log.Entry.Twins.refl_all _)
    obtain ⟨results_eq, events_eq, _, logs⟩ :=
      walk_twins twins ids starts (Plan.ofSettings (s.withToken one)).checks
    exact ⟨congrArg Except.ok results_eq, events_eq, logs⟩

/-- A question about a token has no bearer token, and its address ends its query with the token. -/
lemma exists_question {token : String} {found : Except Http.Trouble Http.Answer}
    (question : answerAbout s link token = some found) :
    ∃ f front, TokenInfo.fetch s.tokenInfoUrl token = .ok f ∧ f.bearer = none ∧
      f.url.query = some (front ++ TokenInfo.parameterText token) ∧
      link.perform [] (.ofFetch f) = found ∧
      link.service [] f = (found.bind Http.Answer.reply).mapError .http := by
  cases asked : TokenInfo.fetch s.tokenInfoUrl token with
  | error fault => simp [answerAbout, asked, Except.toOption] at question
  | ok f =>
    rw [answerAbout_of_asked asked, Option.some.injEq] at question
    obtain ⟨bare, front, query_eq⟩ := TokenInfo.query_of_fetch asked
    refine ⟨f, front, rfl, bare, query_eq, question, ?_⟩
    rw [← question]
    rfl

/-- A token whose question is not answered stands in the message of the fault that stops the run. -/
lemma told_of_unanswered {token : String} (filled : token ≠ "")
    (unanswered : Unanswered s link token) (ids : Nat → Uuid) :
    ∃ fault front back, (run (s.withToken token) link.service ids).outcome = .error fault ∧
      fault.message = front ++ TokenInfo.parameterText token ++ back := by
  obtain ⟨trouble, question⟩ := unanswered
  obtain ⟨f, front, asked, bare, query_eq, performed, failed⟩ := exists_question question
  obtain ⟨lead, message_eq⟩ := Http.perform_error_names (r := .ofFetch f) bare performed
  obtain ⟨left, right, text_eq⟩ :=
    Url.text_of_query ((Http.Request.separateUser_query (.ofFetch f)).trans query_eq)
  have refused : validate (s.withToken token) link.service = (.error (.http trouble), [f]) := by
    rw [validate_withToken filled, TokenInfo.validate_of_asked asked, failed]
    rfl
  refine ⟨.http trouble, "HTTP request failed: " ++ lead ++ left ++ front, right ++ ")", ?_, ?_⟩
  · rw [run_of_refused _ _ _ refused]
  · have told : (Fault.http trouble).message = "HTTP request failed: " ++ trouble.message := rfl
    rw [told, message_eq, text_eq]
    simp only [String.append_assoc]

/-- The token-info endpoint is asked about the token, and a whole reply comes of it. -/
def Answered (s : Settings) (link : Http.Link) (token : String) (reply : Reply) : Prop :=
  ∃ answer, answerAbout s link token = some (.ok answer) ∧ answer.reply = .ok reply

/-- A token about which a reply has come stands in the address that is logged with it. -/
lemma logged_of_answered {token : String} {reply : Reply} (filled : token ≠ "")
    (answered : Answered s link token reply) (ids : Nat → Uuid) :
    ∃ url front back, .got url reply.status false ∈
        (run (s.withToken token) link.service ids).log ∧
      url.text = front ++ TokenInfo.parameterText token ++ back := by
  obtain ⟨answer, question, whole⟩ := answered
  obtain ⟨f, front, asked, bare, query_eq, _, service_eq⟩ := exists_question question
  obtain ⟨left, right, text_eq⟩ := Url.text_of_query query_eq
  have replied : link.service [] f = .ok reply := by
    rw [service_eq, Except.bind, whole]
    rfl
  have logged : .got f.url reply.status false ∈
      validationLog (s.withToken token) link.service := by
    rw [validationLog_withToken filled, TokenInfo.log_of_asked asked, replied,
      TokenInfo.answerLog, bare]
    exact List.mem_cons_self
  refine ⟨f.url, left ++ front, right, ?_, ?_⟩
  · exact (validationLog_prefix_log (s.withToken token) link.service ids).subset logged
  · rw [text_eq]
    simp only [String.append_assoc]

/-- How a token shows that the endpoint is asked about: without an answer in the fault that stops
the run, and with one in the log, which is written for a subscriber that takes such entries. -/
structure Shows (s : Settings) (link : Http.Link) (token : String) (ids : Nat → Uuid) : Prop where
  in_fault : Unanswered s link token → ∃ fault front back,
    (run (s.withToken token) link.service ids).outcome = .error fault ∧
      fault.message = front ++ TokenInfo.parameterText token ++ back
  in_log : ∀ reply, Answered s link token reply → ∃ url front back,
    .got url reply.status false ∈ (run (s.withToken token) link.service ids).log ∧
      url.text = front ++ TokenInfo.parameterText token ++ back
  in_print : ∀ reply, Answered s link token reply → ∀ subscriber : Log.Subscriber,
    subscriber.Shows → (∀ url, subscriber.takes (.got url reply.status false) = true) →
      ∀ coloured nanoseconds, ∃ front back, (CommandLine.Smoke.reportLogged subscriber
        (s.withToken token) coloured (run (s.withToken token) link.service ids) nanoseconds).err =
          front ++ TokenInfo.parameterText token ++ back

lemma shows_token {token : String} (filled : token ≠ "") (ids : Nat → Uuid) :
    Shows s link token ids where
  in_fault unanswered := told_of_unanswered filled unanswered ids
  in_log _ answered := logged_of_answered filled answered ids
  in_print := by
    intro reply answered subscriber shows_values takes coloured nanoseconds
    obtain ⟨url, left, right, logged, text_eq⟩ := logged_of_answered filled answered ids
    have told : ("url", url.text) ∈ (Log.Entry.got url reply.status false).fields :=
      List.mem_cons_self
    obtain ⟨front, back, written⟩ := Log.Subscriber.exists_writeAll_eq shows_values
      (List.mem_cons_of_mem _ logged) (takes url) told 0
    rw [text_eq] at written
    refine ⟨front ++ left, right ++ back ++ (CommandLine.Smoke.report s.verbosity coloured
      (run (s.withToken token) link.service ids) nanoseconds).err, ?_⟩
    rw [CommandLine.Smoke.reportLogged, written]
    simp only [String.append_assoc]
    rfl

/-- Runs that differ in the user token alone end alike, announce the same and report the same, if
the token-info endpoint answers what it is asked; and they log the same but for the addresses of
these questions, so they print the same for every subscriber that leaves such entries out. A token
that the endpoint is asked about shows in what is told of a question without an answer, and in what
is logged of one with a reply. -/
theorem token_shows_in_fault_or_log (twins : Twins s one other link link') (ids : Nat → Uuid) :
    (¬ Unanswered s link one → ¬ Unanswered s link' other →
      let here := run (s.withToken one) link.service ids
      let there := run (s.withToken other) link'.service ids
      here.outcome = there.outcome ∧ here.events = there.events ∧
        List.Forall₂ (Log.Entry.Twins s.tokenInfoUrl one other) here.log there.log ∧
        ∀ coloured nanoseconds,
          (∀ verbosity, CommandLine.Smoke.report verbosity coloured here nanoseconds =
            CommandLine.Smoke.report verbosity coloured there nanoseconds) ∧
          ∀ subscriber : Log.Subscriber,
            (∀ url status, subscriber.takes (.got url status false) = false) →
              CommandLine.Smoke.reportLogged subscriber (s.withToken one) coloured here
                  nanoseconds =
                CommandLine.Smoke.reportLogged subscriber (s.withToken other) coloured there
                  nanoseconds) ∧
    Shows s link one ids ∧ Shows s link' other ids := by
  refine ⟨fun answered answered' => ?_, shows_token twins.filled ids, shows_token twins.filled' ids⟩
  obtain ⟨outcome_eq, events_eq, logs⟩ := run_twins twins answered answered' ids
  have reports_eq : ∀ coloured nanoseconds verbosity,
      CommandLine.Smoke.report verbosity coloured (run (s.withToken one) link.service ids)
          nanoseconds =
        CommandLine.Smoke.report verbosity coloured (run (s.withToken other) link'.service ids)
          nanoseconds := by
    intro coloured nanoseconds verbosity
    simp only [CommandLine.Smoke.report, Reporter.runText, outcome_eq, events_eq]
  refine ⟨outcome_eq, events_eq, logs, fun coloured nanoseconds =>
    ⟨reports_eq coloured nanoseconds, ?_⟩⟩
  intro subscriber leaves_out
  have written_alike : List.Forall₂ (fun e e' => ∀ n, subscriber.write n e = subscriber.write n e')
      (run (s.withToken one) link.service ids).log
      (run (s.withToken other) link'.service ids).log := by
    refine logs.imp fun e e' twin n => ?_
    cases twin with
    | same => rfl
    | validation asked asked' status =>
      rw [Log.Subscriber.write, Log.Subscriber.write, leaves_out, leaves_out, if_neg, if_neg] <;>
        exact Bool.false_ne_true
  have settings_eq : (s.withToken one).host = (s.withToken other).host ∧
      (s.withToken one).verbosity = (s.withToken other).verbosity := ⟨rfl, rfl⟩
  rw [CommandLine.Smoke.reportLogged, CommandLine.Smoke.reportLogged, settings_eq.1, settings_eq.2,
    reports_eq, Log.Subscriber.writeAll, Log.Subscriber.writeAll,
    Log.Subscriber.writeAll_congr written_alike]

/-- A host in use with a workspace, and an endpoint that knows its tokens. -/
def bench : Settings where
  host := "http://wds.test"
  workspaceId := some "w1"
  tokenInfoUrl := "http://tokens.test/i"

/-- A network on which every request succeeds. -/
def agreeable : Http.Link := fun _ _ => .answer ⟨200, some []⟩

/-- Its answers hide the token in the report, and an operator who asks for everything reads it in
the log. -/
theorem token_hidden_by_answers :
    (run (bench.withToken "s3cret") agreeable.service fun _ => ⟨0⟩).outcome =
      (run (bench.withToken "hidden") agreeable.service fun _ => ⟨0⟩).outcome ∧
    ∃ front back, (CommandLine.Smoke.reportLogged (.upTo .debug Log.plainLine)
      (bench.withToken "s3cret") false
      (run (bench.withToken "s3cret") agreeable.service fun _ => ⟨0⟩) 0).err =
        front ++ "access_token=s3cret" ++ back := by
  have answered (token : String)
      (all : (answerAbout bench agreeable token).all (·.isOk) = true) :
      ¬ Unanswered bench agreeable token := by
    rintro ⟨trouble, question⟩
    rw [question] at all
    cases all
  have twins : Twins bench "s3cret" "hidden" agreeable agreeable :=
    ⟨by decide, by decide, by decide, by decide, fun _ _ _ _ _ _ => rfl⟩
  obtain ⟨alike, shows_token, _⟩ := token_shows_in_fault_or_log twins fun _ => ⟨0⟩
  refine ⟨(alike (answered _ (by decide +kernel)) (answered _ (by decide +kernel))).1, ?_⟩
  have replied : Answered bench agreeable "s3cret" ⟨200, ""⟩ :=
    ⟨⟨200, some []⟩, rfl, rfl⟩
  exact shows_token.in_print _ replied (.upTo .debug Log.plainLine)
    (Log.Subscriber.upTo_plainLine_shows .debug) (fun _ => rfl) false 0

/-- What a run tells: the message of what stopped it, or the verdicts of its checks. -/
def Record.told (r : Record) : Except String (List Verdict) :=
  (r.outcome.mapError Fault.message).map (·.map CheckResult.verdict)

/-- Where no connection comes about, runs that differ in the user token alone tell it. -/
theorem token_shows_when_unreachable :
    ¬ ∀ (s : Settings) (one other : String) (link link' : Http.Link) (ids : Nat → Uuid),
      Twins s one other link link' →
        (run (s.withToken one) link.service ids).told =
          (run (s.withToken other) link'.service ids).told := by
  intro same
  have twins : Twins bench "s3cret" "hidden" .down .down :=
    ⟨by decide, by decide, by decide, by decide, fun _ _ _ _ _ _ => rfl⟩
  have differ : (run (bench.withToken "s3cret") Http.Link.down.service fun _ => ⟨0⟩).told ≠
      (run (bench.withToken "hidden") Http.Link.down.service fun _ => ⟨0⟩).told := by
    decide +kernel
  exact differ (same _ _ _ _ _ _ twins)

end SmokeRun
end Shakedown
