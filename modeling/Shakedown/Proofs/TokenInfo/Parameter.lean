import Shakedown.Proofs.Text.Form
import Shakedown.Proofs.TokenInfo

/-!
What the validation of a token sends, and what the answer says of the token.

The endpoint is asked once, without a bearer token, at its own address with one more parameter. That
parameter is the token as it is: whatever characters it is made of, the query is read as the pairs
it had and the token behind them, and nothing else of the address changes.
-/

namespace Shakedown

/-- The parameters that the query of an address carries, in order. -/
def Url.parameters (u : Url) : List (String × String) :=
  (Text.Form.decode (u.query.getD "").toList).map fun pair =>
    (String.ofList pair.1, String.ofList pair.2)

namespace TokenInfo

/-- The fetch asks the address with the token as one more parameter, and shows the token nowhere
else. -/
structure Passes (url : Url) (token : String) (f : Fetch) : Prop where
  bearer_eq : f.bearer = none
  elsewhere_eq : { f.url with query := url.query } = url
  parameters_eq : f.url.parameters = url.parameters ++ [("access_token", token)]

/-- What an answer says of a token: any success accepts it, any other reply rejects it, and without
a reply there is only what went wrong. -/
inductive Settles : Except Fault Reply → Except Fault Unit → Prop
  | accepted {reply : Reply} (good : 200 ≤ reply.status ∧ reply.status ≤ 299) :
      Settles (.ok reply) (.ok ())
  | rejected {reply : Reply} (bad : ¬ (200 ≤ reply.status ∧ reply.status ≤ 299)) :
      Settles (.ok reply) (.error (.tokenRejected reply.status reply.body))
  | unanswered {fault : Fault} : Settles (.error fault) (.error fault)

lemma parameters_withParameter (url : Url) (name value : String) :
    (withParameter url name value).parameters = url.parameters ++ [(name, value)] := by
  have query_eq : (withParameter url name value).query =
      some (String.ofList (Text.Form.append (url.query.getD "").toList name.toList
        value.toList)) := rfl
  rw [Url.parameters, query_eq, Option.getD_some, String.toList_ofList, Text.Form.decode_append,
    List.map_append, List.map_singleton, String.ofList_toList, String.ofList_toList, Url.parameters]

lemma withParameter_passes (url : Url) (token : String) :
    Passes url token ⟨withParameter url "access_token" token, none⟩ where
  bearer_eq := rfl
  elsewhere_eq := rfl
  parameters_eq := parameters_withParameter url "access_token" token

lemma settles_bind_judge (answer : Except Fault Reply) : Settles answer (answer.bind judge) := by
  cases answer with
  | error fault => exact .unanswered
  | ok reply =>
    have judged : (Except.ok reply : Except Fault Reply).bind judge = judge reply := rfl
    rw [judged, judge]
    split
    · next good => exact .accepted (Reply.isSuccess_iff.mp good)
    · next bad => exact .rejected fun good => bad (Reply.isSuccess_iff.mpr good)

lemma Settles.eq_ok_iff {answer : Except Fault Reply} {verdict : Except Fault Unit}
    (settles : Settles answer verdict) :
    verdict = .ok () ↔ ∃ reply, answer = .ok reply ∧ 200 ≤ reply.status ∧ reply.status ≤ 299 := by
  constructor
  · rintro rfl
    cases settles with
    | accepted good => exact ⟨_, rfl, good⟩
  · rintro ⟨reply, rfl, good⟩
    cases settles with
    | accepted => rfl
    | rejected bad => exact absurd good bad

/-- An endpoint that can be read is asked once, at its own address with the token as one more
parameter, and its answer settles what becomes of the token: it holds just when the answer is a
success. An endpoint that cannot be read is not asked. -/
theorem token_is_one_more_parameter (service : Service) (earlier : List Fetch)
    (endpoint token : String) :
    match Url.read endpoint with
    | .ok url => ∃ f verdict, Passes url token f ∧
        validate service earlier endpoint token = (verdict, earlier ++ [f]) ∧
        Settles (service earlier f) verdict ∧
        (verdict = .ok () ↔ ∃ reply, service earlier f = .ok reply ∧ 200 ≤ reply.status ∧
          reply.status ≤ 299)
    | .error problem => validate service earlier endpoint token =
        (.error (.invalidUrl endpoint "" problem.message), earlier) := by
  cases read : Url.read endpoint with
  | error problem => exact validate_of_unreadable read service earlier token
  | ok url =>
    have asked := fetch_of_readable read token
    have settles := settles_bind_judge
      (service earlier ⟨withParameter url "access_token" token, none⟩)
    exact ⟨_, _, withParameter_passes url token, validate_of_asked asked service earlier, settles,
      settles.eq_ok_iff⟩

end TokenInfo
end Shakedown
