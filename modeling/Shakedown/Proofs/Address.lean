import Shakedown.Address
import Shakedown.Proofs.Url.Cleaning

/-!
References that start at the root of a host.

Nothing that is appended to a slash and another plain character can make a reference name another
authority: the text neither opens with a scheme nor with two slashes once tabs and line ends are
dropped. Such a reference is read against the base alone, and the base is all that can fail.
-/

namespace Shakedown

namespace Url

/-- A slash that is followed by no second slash, not even once the text is cleaned. -/
def Rooted (reference : String) : Prop :=
  ∃ c rest, reference.toList = '/' :: c :: rest ∧ c ∉ "/\\\t\n\r".toList

lemma Rooted.append {reference : String} (rooted : Rooted reference) (more : String) :
    Rooted (reference ++ more) := by
  obtain ⟨c, rest, opens, plain⟩ := rooted
  exact ⟨c, rest ++ more.toList, by rw [String.toList_append, opens]; rfl, plain⟩

/-- Cleaning leaves a rooted reference with one slash in front. -/
lemma clean_of_rooted {reference : String} (rooted : Rooted reference) :
    ∃ tail, clean reference = '/' :: tail ∧ ∀ c ∈ tail.head?, isSlash .web c = false := by
  obtain ⟨first, rest, opens, plain⟩ := rooted
  refine ⟨_, clean_of_slash opens, ?_⟩
  intro c at_head
  have differs : first ≠ '/' ∧ first ≠ '\\' ∧ first ≠ '\t' ∧ first ≠ '\n' ∧ first ≠ '\r' := by
    simpa using plain
  obtain ⟨no_slash, no_backslash, no_tab, no_feed, no_return⟩ := differs
  rcases rdropWhile_eq_nil_or_cons isControlOrBlank first rest with nothing | ⟨kept, eq⟩
  · rw [nothing] at at_head
    cases at_head
  · rw [eq, List.filter_cons_of_pos (by simp [stays, no_tab, no_feed, no_return])] at at_head
    obtain rfl : first = c := by simpa using at_head
    simp [isSlash, no_slash, no_backslash]

lemma clean_root : clean "/" = ['/'] := by decide

namespace Base

lemma follow_scheme (b : Base) (start : List String) (cs : List Char) :
    (b.follow start cs).scheme = b.scheme := rfl

lemma follow_authority (b : Base) (start : List String) (cs : List Char) :
    (b.follow start cs).authority = some b.authority := rfl

/-- One slash in front takes nothing from the base but who is asked. -/
lemma join_of_clean {reference : String} {tail : List Char} (cleaned : clean reference = '/' :: tail)
    (plain : ∀ c ∈ tail.head?, isSlash .web c = false) (b : Base) :
    b.join reference = .ok (b.follow [] tail) := by
  have no_scheme : splitScheme ('/' :: tail) = none := by
    rw [splitScheme, List.dropWhile_cons_of_neg (by decide)]
    simp
  have no_authority : opensAuthority ('/' :: tail) = false := by
    cases tail with
    | nil => rfl
    | cons c _ => simp [opensAuthority, plain c rfl]
  simp only [join, cleaned, no_scheme, resolve, no_authority]
  rfl

lemma join_root (b : Base) : b.join "/" = .ok (b.follow [] []) :=
  join_of_clean clean_root (by simp) b

end Base
end Url

namespace Address

open Url

/-- On a host that cannot be read every reference fails. -/
lemma resolve_of_unread {host : String} {problem : Problem} (unread : base host = .error problem)
    (reference : String) :
    resolve host reference = .error (.invalidUrl host reference problem.message) := by
  have failed : url host reference = .error problem := by
    rw [url, unread]
    rfl
  rw [resolve, failed]

lemma resolve_of_read {host reference : String} {b : Base} {u : Url} (read : base host = .ok b)
    (joined : b.join reference = .ok u) : resolve host reference = .ok u := by
  have found : url host reference = .ok u := by
    rw [url, read]
    exact joined
  rw [resolve, found]

/-- A reference is resolved to what it leads to from the base of its host. -/
lemma resolve_eq_ok_iff {host reference : String} {b : Base} {u : Url} (read : base host = .ok b) :
    resolve host reference = .ok u ↔ b.join reference = .ok u := by
  refine ⟨fun found => ?_, resolve_of_read read⟩
  have url_eq : url host reference = b.join reference := by
    rw [url, read]
    rfl
  cases joined : b.join reference with
  | ok v => exact congrArg _ (Except.ok.inj ((resolve_of_read read joined).symm.trans found))
  | error problem =>
    rw [resolve, url_eq, joined] at found
    cases found

/-- Who answers for a rooted reference answers for the root of the host. -/
lemma authority_of_rooted {host reference : String} {u : Url} (rooted : Rooted reference)
    (found : resolve host reference = .ok u) :
    ∃ home, resolve host "/" = .ok home ∧ u.scheme = home.scheme ∧
      u.authority = home.authority := by
  obtain ⟨tail, cleaned, plain⟩ := clean_of_rooted rooted
  cases read : base host with
  | error problem =>
    rw [resolve_of_unread read] at found
    cases found
  | ok b =>
    have there := resolve_of_read read (Base.join_of_clean cleaned plain b)
    obtain rfl : u = b.follow [] tail := Except.ok.inj (found.symm.trans there)
    refine ⟨b.follow [] [], resolve_of_read read b.join_root, ?_, ?_⟩
    · rw [Base.follow_scheme, Base.follow_scheme]
    · rw [Base.follow_authority, Base.follow_authority]

end Address
end Shakedown
