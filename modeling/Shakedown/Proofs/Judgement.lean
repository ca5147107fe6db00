import Mathlib.Tactic.Lemma
import Shakedown.Check

/-!
What becomes of a reply in a check.

Some checks read the body of a reply as JSON, and a listing only if its status is right. A body that
is then no JSON is the one thing that such a check errs on. A check that fails says why and ends with
the body.
-/

namespace Shakedown.Check

/-- Whether the check comes to read the body of a reply as JSON. -/
def decodes (reply : Reply) : Check → Bool
  | .statusUp => true
  | .versionPresent => true
  | .jobListing => reply.status = 200
  | .importJobListing => reply.status = 200
  | _ => false

/-- What may become of a reply in a check that reads its body as JSON, or in one that does not. -/
inductive Judged (reply : Reply) : (decodes : Bool) → Verdict → Prop
  | passed {decodes : Bool} (readable : decodes = true → ∃ j, Json.parse reply.body = .ok j) :
      Judged reply decodes .passed
  | failed {decodes : Bool} {lead : String}
      (readable : decodes = true → ∃ j, Json.parse reply.body = .ok j) :
      Judged reply decodes (.failed (lead ++ reply.body))
  | unreadable {problem : Json.Problem} (bad : Json.parse reply.body = .error problem) :
      Judged reply true (.errored (Fault.decode problem).message)

lemma Judged.errored_iff {reply : Reply} {decodes : Bool} {verdict : Verdict}
    (judged : Judged reply decodes verdict) (message : String) : verdict = .errored message ↔
      decodes = true ∧ ∃ problem, Json.parse reply.body = .error problem ∧
        (Fault.decode problem).message = message := by
  have unread (readable : decodes = true → ∃ j, Json.parse reply.body = .ok j) :
      ¬ (decodes = true ∧ ∃ problem, Json.parse reply.body = .error problem ∧
        (Fault.decode problem).message = message) := by
    rintro ⟨reads, problem, bad, _⟩
    obtain ⟨j, good⟩ := readable reads
    rw [good] at bad
    cases bad
  cases judged with
  | passed readable => exact iff_of_false nofun (unread readable)
  | failed readable => exact iff_of_false nofun (unread readable)
  | unreadable bad => simp [bad]

lemma Judged.eq_of_failed {reply : Reply} {decodes : Bool} {verdict : Verdict}
    (judged : Judged reply decodes verdict) {message : String} (failed : verdict = .failed message) :
    ∃ lead, message = lead ++ reply.body := by
  cases judged with
  | passed => cases failed
  | failed => cases failed; exact ⟨_, rfl⟩
  | unreadable => cases failed

section Judge
variable (reply : Reply)

lemma judgeStatus_judged (label : String) (expected : Nat) :
    Judged reply false (judgeStatus label expected reply) := by
  unfold judgeStatus
  split
  · exact .passed (by simp)
  · exact .failed (by simp)

/-- Reading the body is all that can err. -/
lemma judgeJson_judged {judge : Json → Verdict}
    (judged : ∀ j, judge j = .passed ∨ ∃ lead, judge j = .failed (lead ++ reply.body)) :
    Judged reply true (judgeJson reply judge) := by
  unfold judgeJson Reply.json
  cases parsed : Json.parse reply.body with
  | error problem => exact .unreadable parsed
  | ok j =>
    rcases judged j with passed | ⟨lead, failed⟩
    · simp only [passed]
      exact .passed fun _ => ⟨j, parsed⟩
    · simp only [failed]
      exact .failed fun _ => ⟨j, parsed⟩

lemma judgeListing_judged : Judged reply (reply.status = 200) (judgeListing reply) := by
  unfold judgeListing judgeStatus
  by_cases good : reply.status = 200
  · simp only [good, if_true, decide_true]
    refine judgeJson_judged reply fun j => ?_
    split
    · exact .inl rfl
    · exact .inr ⟨_, rfl⟩
  · simp only [good, if_false, decide_false]
    exact .failed (by simp)

lemma judgeComponents_judged (payload : Json) :
    judgeComponents reply.body payload = .passed ∨
      ∃ lead, judgeComponents reply.body payload = .failed (lead ++ reply.body) := by
  unfold judgeComponents
  split
  · exact .inl rfl
  · split
    · exact .inr ⟨_, rfl⟩
    · split
      · exact .inl rfl
      · exact .inr ⟨_, rfl⟩

lemma judgeUp_judged : Judged reply true (judgeUp reply) := by
  unfold judgeUp
  refine judgeJson_judged reply fun j => ?_
  split
  · exact judgeComponents_judged reply j
  · exact .inr ⟨_, rfl⟩

lemma judgeVersion_judged : Judged reply true (judgeVersion reply) := by
  unfold judgeVersion
  refine judgeJson_judged reply fun j => ?_
  dsimp only
  split
  · exact .inr ⟨_, rfl⟩
  · exact .inl rfl

lemma judge_judged (check : Check) : Judged reply (check.decodes reply) (check.judge reply) := by
  cases check with
  | statusCode => exact judgeStatus_judged reply _ _
  | statusUp => exact judgeUp_judged reply
  | versionCode => exact judgeStatus_judged reply _ _
  | versionPresent => exact judgeVersion_judged reply
  | jobListing => exact judgeListing_judged reply
  | randomJob => exact judgeStatus_judged reply _ _
  | randomImportJob => exact judgeStatus_judged reply _ _
  | importJobListing => exact judgeListing_judged reply

end Judge
end Shakedown.Check
