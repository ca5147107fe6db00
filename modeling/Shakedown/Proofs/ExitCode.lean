import Mathlib.Tactic.TFAE
import Shakedown.CommandLine.Smoke
import Shakedown.Proofs.SmokeRun

/-!
What the exit code of a smoke run says.

Every result counts once, as passed, failed or errored, and the problems are the results that did not
pass. So exit code, summary and problems agree on whether all checks passed. The program exits with
zero just when the user token holds, or there is none, and every check of the plan passes in its
turn; it exits with one after every other run.
-/

namespace Shakedown

namespace Outcome
variable (o : Outcome)

lemma count_cons (r : CheckResult) (rest : Outcome) (p : Verdict → Bool) :
    count (r :: rest) p = count rest p + if p r.verdict then 1 else 0 := List.countP_cons

lemma passed_add_failures_add_errors : o.passed + o.failures + o.errors = o.length := by
  induction o with
  | nil => rfl
  | cons r rest ih =>
    simp only [passed, failures, errors, count_cons, List.length_cons] at ih ⊢
    cases r.verdict <;> simp only [Verdict.isPassed, if_true, Bool.false_eq_true, if_false] <;> omega

lemma isPassed_iff {v : Verdict} : v.isPassed = true ↔ v = .passed := by
  cases v <;> simp [Verdict.isPassed]

lemma mem_problems_iff {r : CheckResult} : r ∈ o.problems ↔ r ∈ o ∧ r.verdict ≠ .passed := by
  rw [problems, List.mem_filter, Bool.not_eq_true', ← Bool.not_eq_true, isPassed_iff]

lemma passed_add_length_problems : o.passed + o.problems.length = o.length := by
  rw [passed, count, problems, ← List.countP_eq_length_filter]
  simpa using (List.length_eq_countP_add_countP (fun r => r.verdict.isPassed) (l := o)).symm

lemma length_problems : o.problems.length = o.failures + o.errors := by
  have counted := o.passed_add_failures_add_errors
  have rest := o.passed_add_length_problems
  omega

lemma problems_eq_nil_iff : o.problems = [] ↔ ∀ r ∈ o, r.verdict = .passed := by
  simp only [List.eq_nil_iff_forall_not_mem, mem_problems_iff, not_and, not_not]

lemma wasSuccessful_iff : o.wasSuccessful = true ↔ o.problems = [] := by
  rw [← List.length_eq_zero_iff, length_problems, wasSuccessful]
  simp

lemma exitCode_eq_zero_iff : o.exitCode = 0 ↔ o.wasSuccessful = true := by
  rw [exitCode]
  split <;> simp_all

lemma exitCode_cases : o.exitCode = 0 ∨ o.exitCode = 1 := by
  rw [exitCode]
  split <;> simp

lemma summary_eq_ok_iff : o.summary = "OK" ↔ o.wasSuccessful = true := by
  rw [summary]
  split
  · next successful => simp [successful]
  · next unsuccessful =>
    refine ⟨fun same => ?_, fun successful => absurd successful unsuccessful⟩
    have first := congrArg (fun text => text.toList.head?) same
    simp [String.toList_append] at first

/-- What counts, problems, summary and exit code say of the results they are taken from. -/
structure Tells : Prop where
  counts : o.passed + o.failures + o.errors = o.length
  problems_sublist : o.problems.Sublist o
  problems_iff : ∀ r, r ∈ o.problems ↔ r ∈ o ∧ r.verdict ≠ .passed
  length_problems : o.problems.length = o.failures + o.errors
  agree : [o.exitCode = 0, o.wasSuccessful = true, o.summary = "OK", o.problems = [],
    ∀ r ∈ o, r.verdict = .passed].TFAE

lemma tells : o.Tells := by
  refine ⟨o.passed_add_failures_add_errors, List.filter_sublist, fun _ => o.mem_problems_iff,
    o.length_problems, ?_⟩
  tfae_have 1 ↔ 2 := o.exitCode_eq_zero_iff
  tfae_have 3 ↔ 2 := o.summary_eq_ok_iff
  tfae_have 2 ↔ 4 := o.wasSuccessful_iff
  tfae_have 4 ↔ 5 := o.problems_eq_nil_iff
  tfae_finish

lemma exitCode_eq_zero_iff_passed : o.exitCode = 0 ↔ ∀ r ∈ o, r.verdict = .passed :=
  o.tells.agree.out 0 4

end Outcome

namespace SmokeRun
variable (settings : Settings) (service : Service) (ids : Nat → Uuid)

/-- Checks pass one after the other, each through the caller that those before it have left. -/
def PassInTurn : (place : Nat) → Caller → List (Group × Check) → Prop
  | _, _, [] => True
  | place, caller, item :: rest =>
    (item.2.run settings service (ids place) caller).1 = .passed ∧
      PassInTurn (place + 1) (item.2.run settings service (ids place) caller).2 rest

instance decidablePassInTurn : (place : Nat) → (caller : Caller) → (items : List (Group × Check)) →
    Decidable (PassInTurn settings service ids place caller items)
  | _, _, [] => isTrue trivial
  | place, caller, item :: rest =>
    have := decidablePassInTurn (place + 1)
      (item.2.run settings service (ids place) caller).2 rest
    inferInstanceAs (Decidable (_ ∧ _))

/-- All results of a walk are passed if those before it are and its checks pass in their turn. -/
lemma walk_passed_iff (start : Progress) (items : List (Group × Check)) :
    (∀ r ∈ (walk settings service ids start items).results, r.verdict = .passed) ↔
      (∀ r ∈ start.results, r.verdict = .passed) ∧
        PassInTurn settings service ids start.results.length start.caller items := by
  induction items generalizing start with
  | nil => simp [walk, PassInTurn]
  | cons item rest ih =>
    have walk_cons : walk settings service ids start (item :: rest) =
        walk settings service ids (start.step settings service ids item) rest := rfl
    rw [walk_cons, ih, step_eq]
    simp only [List.forall_mem_append, List.forall_mem_singleton, List.length_append,
      List.length_singleton, PassInTurn, resultOf, inTurn, and_assoc]

lemma validate_of_opens {opening : List Fetch} (opens : Opens settings service opening) :
    validate settings service = (.ok (), opening) := by
  cases opens with
  | untokened absent => simp only [validate, absent]
  | vouched given vouches =>
    obtain ⟨asked, reply, replied, good⟩ := vouches
    simp only [validate, given, TokenInfo.validate_of_asked asked, replied, Except.bind,
      TokenInfo.judge, good, if_true, List.nil_append]

/-- The token holds or there is none, and every check of the plan passes in its turn. -/
def AllWell : Prop :=
  ∃ opening, Opens settings service opening ∧
    PassInTurn settings service ids 0 { calls := opening } (Plan.ofSettings settings).checks

lemma allWell_iff {opening : List Fetch} (opens : Opens settings service opening) :
    AllWell settings service ids ↔
      ∀ r ∈ (walk settings service ids (outset settings service opening)
        (Plan.ofSettings settings).checks).results, r.verdict = .passed := by
  rw [walk_passed_iff]
  constructor
  · rintro ⟨other, opens_other, pass⟩
    have validated := validate_of_opens settings service opens
    rw [validate_of_opens settings service opens_other] at validated
    cases validated
    exact ⟨by simp [outset], pass⟩
  · rintro ⟨_, pass⟩
    exact ⟨opening, opens, pass⟩

end SmokeRun

namespace CommandLine.Smoke

open SmokeRun (AllWell)

section Report
variable (settings : Settings) (service : Service) (ids : Nat → Uuid) (coloured : Bool)
  (nanoseconds : Nat)

/-- The exit code of a run, which ends in one of two ways. -/
lemma exitCode_report_cases :
    let output := report settings.verbosity coloured (SmokeRun.run settings service ids) nanoseconds
    (AllWell settings service ids ∧ output.exitCode = 0) ∨
      (¬ AllWell settings service ids ∧ output.exitCode = 1) := by
  intro output
  rcases SmokeRun.validate_cases settings service with
    ⟨_, fault, calls, _, _, refused⟩ | ⟨opening, opens, validated⟩
  · refine .inr ⟨?_, ?_⟩
    · rintro ⟨opening, opens, _⟩
      rw [SmokeRun.validate_of_opens settings service opens] at refused
      cases refused
    · simp only [output, SmokeRun.run_of_refused settings service ids refused]
      rfl
  · have ended : output.exitCode = Outcome.exitCode (SmokeRun.walk settings service ids
        (SmokeRun.outset settings service opening) (Plan.ofSettings settings).checks).results := by
      simp only [output, SmokeRun.run_of_valid settings service ids validated]
      rfl
    rw [SmokeRun.allWell_iff settings service ids opens, ← Outcome.exitCode_eq_zero_iff_passed,
      ended]
    rcases Outcome.exitCode_cases (SmokeRun.walk settings service ids
      (SmokeRun.outset settings service opening) (Plan.ofSettings settings).checks).results with good | bad
    · exact .inl ⟨good, good⟩
    · exact .inr ⟨by omega, bad⟩

end Report

/-- Counts, problems, summary and exit code of an outcome tell the same. The program exits with zero
if the user token holds or there is none and every check of the plan passes, and with one if not,
whatever a service answers. -/
theorem exit_code_tells_whether_all_is_well :
    (∀ o : Outcome, o.Tells) ∧
    ∀ (arguments : List String) (settings : Settings), readSettings arguments = .ok settings →
      ∀ (coloured : Bool) (service : Service) (ids : Nat → Uuid) (nanoseconds : Nat),
        let output := run arguments coloured service ids nanoseconds
        (output.exitCode = 0 ↔ AllWell settings service ids) ∧
          (¬ AllWell settings service ids → output.exitCode = 1) := by
  refine ⟨Outcome.tells, fun arguments settings read coloured service ids nanoseconds => ?_⟩
  intro output
  have output_eq : output =
      report settings.verbosity coloured (SmokeRun.run settings service ids) nanoseconds := by
    simp only [output, run, read]
  rw [output_eq]
  rcases exitCode_report_cases settings service ids coloured nanoseconds with
    ⟨well, zero⟩ | ⟨ill, one⟩
  · exact ⟨⟨fun _ => well, fun _ => zero⟩, fun ill => absurd well ill⟩
  · refine ⟨⟨fun zero => ?_, fun well => absurd well ill⟩, fun _ => one⟩
    rw [one] at zero
    cases zero

/-- A deployment in good health, told by the place of a call in a run with a token: the token holds,
the jobs are listed, and the made-up job is not found. -/
private def healthy : Service := fun earlier _ =>
  match earlier.length with
  | 3 => .ok ⟨200, "[]"⟩
  | 4 => .ok ⟨404, ""⟩
  | _ => .ok ⟨200, "\x7b\"status\":\"UP\",\"build\":\x7b\"version\":\"1\"\x7d\x7d"⟩

private def wardSettings : Settings where
  host := "wds.test"
  workspaceId := some "w1"
  userToken := some "t0ken"
  tokenInfoUrl := "http://tokens.test/i"

private def wardArguments : List String :=
  ["wds.test", "w1", "t0ken", "--token-info-url", "http://tokens.test/i"]

theorem exit_code_zero_in_good_health :
    readSettings wardArguments = .ok wardSettings ∧
      AllWell wardSettings healthy (fun _ => ⟨0⟩) ∧
      (run wardArguments false healthy (fun _ => ⟨0⟩) 0).exitCode = 0 := by
  have read : readSettings wardArguments = .ok wardSettings := by rfl
  have well : AllWell wardSettings healthy (fun _ => ⟨0⟩) := by
    refine ⟨_, .vouched rfl ⟨rfl, _, rfl, rfl⟩, ?_⟩
    decide +kernel
  have exits := exit_code_tells_whether_all_is_well.2 wardArguments wardSettings read false healthy
    (fun _ => ⟨0⟩) 0
  exact ⟨read, well, exits.1.mpr well⟩

end CommandLine.Smoke
end Shakedown
