import Mathlib.Tactic.Lemma
import Shakedown.TokenInfo

/-!
When a token-info endpoint vouches for a token.

An endpoint that is no address is never asked. Any other is asked once, and vouches for the token
with a reply of success; every other end is a refusal.
-/

namespace Shakedown.TokenInfo

/-- Why a token is refused, with the calls made to find out. -/
inductive Refuses (service : Service) (earlier : List Fetch) (endpoint token : String) :
    Fault → List Fetch → Prop
  | unreadable {problem : Url.Problem} (unread : Url.read endpoint = .error problem) :
      Refuses service earlier endpoint token (.invalidUrl endpoint "" problem.message) []
  | unanswered {f : Fetch} {fault : Fault} (asked : fetch endpoint token = .ok f)
      (failed : service earlier f = .error fault) :
      Refuses service earlier endpoint token fault [f]
  | rejected {f : Fetch} {reply : Reply} (asked : fetch endpoint token = .ok f)
      (replied : service earlier f = .ok reply) (bad : reply.isSuccess = false) :
      Refuses service earlier endpoint token (.tokenRejected reply.status reply.body) [f]

/-- The endpoint replies to the fetch for the token with success. -/
def Vouches (service : Service) (earlier : List Fetch) (endpoint token : String) (f : Fetch) :
    Prop :=
  fetch endpoint token = .ok f ∧ ∃ reply, service earlier f = .ok reply ∧ reply.isSuccess = true

variable {service : Service} {earlier : List Fetch} {endpoint token : String}

lemma fetch_of_unreadable {problem : Url.Problem} (unread : Url.read endpoint = .error problem)
    (token : String) : fetch endpoint token = .error (.invalidUrl endpoint "" problem.message) := by
  simp only [fetch, unread]

lemma fetch_of_readable {url : Url} (read : Url.read endpoint = .ok url) (token : String) :
    fetch endpoint token = .ok ⟨withParameter url "access_token" token, none⟩ := by
  simp only [fetch, read]

lemma validate_of_unreadable {problem : Url.Problem} (unread : Url.read endpoint = .error problem)
    (service : Service) (earlier : List Fetch) (token : String) :
    validate service earlier endpoint token =
      (.error (.invalidUrl endpoint "" problem.message), earlier) := by
  simp only [validate, fetch_of_unreadable unread]

/-- The answer to the fetch for a token decides how its validation ends. -/
lemma validate_of_asked {f : Fetch} (asked : fetch endpoint token = .ok f) (service : Service)
    (earlier : List Fetch) : validate service earlier endpoint token =
      ((service earlier f).bind judge, earlier ++ [f]) := by
  simp only [validate, asked]
  cases service earlier f <;> rfl

lemma log_of_unreadable {problem : Url.Problem} (unread : Url.read endpoint = .error problem)
    (service : Service) (earlier : List Fetch) (token : String) :
    log service earlier endpoint token = [] := by
  simp only [log, fetch_of_unreadable unread]

/-- What is logged of the answer to the fetch for a token: its address, and its status twice. -/
def answerLog (f : Fetch) : Except Fault Reply → List Log.Entry
  | .ok reply => [.got f.url reply.status f.bearer.isSome, .tokenInfo reply.status]
  | .error _ => []

lemma log_of_asked {f : Fetch} (asked : fetch endpoint token = .ok f) (service : Service)
    (earlier : List Fetch) : log service earlier endpoint token =
      answerLog f (service earlier f) := by
  simp only [log, asked]
  cases service earlier f <;> rfl

/-- Validating a token ends in a refusal or in the endpoint's word for it. -/
lemma validate_cases (service : Service) (earlier : List Fetch) (endpoint token : String) :
    (∃ fault made, Refuses service earlier endpoint token fault made ∧
      validate service earlier endpoint token = (.error fault, earlier ++ made)) ∨
    ∃ f, Vouches service earlier endpoint token f ∧
      validate service earlier endpoint token = (.ok (), earlier ++ [f]) := by
  cases read : Url.read endpoint with
  | error problem =>
    refine .inl ⟨_, [], .unreadable read, ?_⟩
    simp only [validate, fetch_of_unreadable read, List.append_nil]
  | ok url =>
    have asked := fetch_of_readable read token
    cases answered : service earlier ⟨withParameter url "access_token" token, none⟩ with
    | error fault =>
      refine .inl ⟨fault, _, .unanswered asked answered, ?_⟩
      simp only [validate, asked, answered]
    | ok reply =>
      cases good : reply.isSuccess with
      | true =>
        refine .inr ⟨_, ⟨asked, reply, answered, good⟩, ?_⟩
        simp only [validate, asked, answered, judge, good, if_true]
      | false =>
        refine .inl ⟨_, _, .rejected asked answered good, ?_⟩
        simp only [validate, asked, answered, judge, good, Bool.false_eq_true, if_false]

lemma Refuses.length_le_one {fault : Fault} {made : List Fetch}
    (refused : Refuses service earlier endpoint token fault made) : made.length ≤ 1 := by
  cases refused with
  | unreadable => exact Nat.zero_le 1
  | unanswered => exact Nat.le_refl 1
  | rejected => exact Nat.le_refl 1

lemma Refuses.eq_nil_of_unreadable {fault : Fault} {made : List Fetch} {problem : Url.Problem}
    (refused : Refuses service earlier endpoint token fault made)
    (unread : Url.read endpoint = .error problem) : made = [] := by
  have none_asked := fetch_of_unreadable unread token
  cases refused with
  | unreadable => rfl
  | unanswered asked => rw [none_asked] at asked; cases asked
  | rejected asked => rw [none_asked] at asked; cases asked

end Shakedown.TokenInfo
