import Mathlib.Tactic.Lemma
import Shakedown.Http.Link

/-!
Requests as they are sent.

A request is sent as it is, but for a name in its address, which becomes a credential of its own.
Its bearer token and the query of its address stay.
-/

namespace Shakedown

/-- No name to ask under stands in the address. -/
def Url.Nameless (u : Url) : Prop := ∀ a ∈ u.authority, a.hasUser = false

namespace Http

lemma userOf_eq_none {a : Url.Authority} (nameless : a.hasUser = false) : userOf a = none := by
  have nothing : a.username = "" ∧ a.password = none := by
    simpa [Url.Authority.hasUser] using nameless
  have blank : decodeUser "" = some "" := by decide
  rw [userOf, nothing.1, nothing.2, blank]
  rfl

/-- A name is taken from an authority if it can be read and says something, or the password does. -/
lemma userOf_eq_some_iff {a : Url.Authority} {name : String} {password : Option String} :
    userOf a = some (name, password) ↔ decodeUser a.username = some name ∧
      a.password.bind decodeUser = password ∧ (name ≠ "" ∨ password ≠ none) := by
  unfold userOf
  generalize a.password.bind decodeUser = told
  cases decodeUser a.username with
  | none => simp
  | some found =>
    by_cases nothing : found = "" ∧ told = none
    · obtain ⟨rfl, rfl⟩ := nothing
      refine iff_of_false (by simp) ?_
      rintro ⟨found_eq, rfl, named | given⟩
      · exact named (Option.some.inj found_eq).symm
      · exact given rfl
    · have something : ¬ (found = "" && told.isNone) = true := by simpa using nothing
      simp only [if_neg something, Option.some.injEq, Prod.mk.injEq]
      constructor
      · rintro ⟨rfl, rfl⟩
        exact ⟨rfl, rfl, Classical.not_and_iff_not_or_not.mp nothing⟩
      · rintro ⟨rfl, rfl, _⟩
        exact ⟨rfl, rfl⟩

namespace Request
variable {r sent : Request}

lemma separateUser_query (r : Request) : r.separateUser.url.query = r.url.query := by
  unfold separateUser
  split <;> rfl

lemma separateUser_bearer (r : Request) : r.separateUser.bearer = r.bearer := by
  unfold separateUser
  split <;> rfl

lemma separateUser_user (anonymous : r.user = none) :
    r.separateUser.user = r.url.authority.bind userOf := by
  unfold separateUser
  cases r.url.authority.bind userOf with
  | none => exact anonymous
  | some user => rfl

lemma separateUser_url_congr {a b : Request} (same : a.url = b.url) :
    a.separateUser.url = b.separateUser.url := by
  unfold separateUser
  rw [← same]
  cases a.url.authority.bind userOf with
  | none => exact same
  | some user => rfl

lemma separateUser_of_nameless (nameless : r.url.Nameless) : r.separateUser = r := by
  have nobody : r.url.authority.bind userOf = none := by
    cases found : r.url.authority with
    | none => rfl
    | some a => exact userOf_eq_none (nameless a (by rw [found]; rfl))
  simp only [separateUser, nobody]

lemma eq_separateUser_of_prepare (prepared : r.prepare = .ok sent) : sent = r.separateUser := by
  unfold prepare at prepared
  simp only at prepared
  split at prepared
  · cases prepared
  · split at prepared
    · cases prepared
    · split at prepared
      · cases prepared
      · cases prepared
        rfl

/-- A request without a bearer token is sent as it is but for the name in its address, or is
refused for that address. -/
lemma prepare_bare (bare : r.bearer = none) :
    r.prepare = .ok r.separateUser ∨ r.prepare = .error (.badScheme r.separateUser.url) ∨
      r.prepare = .error (.badUri r.separateUser.url) := by
  have still : r.separateUser.bearer = none := (separateUser_bearer r).trans bare
  unfold prepare
  simp only [still, Option.all_none, Bool.not_true, Bool.false_eq_true, if_false]
  split
  · exact .inr (.inl rfl)
  · split
    · exact .inr (.inr rfl)
    · exact .inl rfl

end Request
end Http
end Shakedown
