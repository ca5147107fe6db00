import Mathlib.Data.List.Forall2
import Mathlib.Tactic.Lemma
import Shakedown.Proofs.ExitCode
import Shakedown.Report

/-!
How a report is laid out.

Without colours, a report is made of the notes, the progress, a block for every check that did not
pass, and the tail. Notes, blocks and tail are the same texts at every verbosity, but that a quiet
report leaves out the blocks; only the progress is told in another way at each.
-/

namespace Shakedown.Reporter

/-- Texts, each on a line of its own. -/
def lines (texts : List String) : String := String.join (texts.map line)

/-- A reporter without colours that has not written anything yet. -/
def fresh (v : Verbosity) : Reporter := { verbosity := v, coloured := false }

/-- How the progress of a run with these results reads in the end. -/
def progressText (results : Outcome) : Verbosity → String
  | .quiet => ""
  | .minimal =>
    if results = [] then "" else line (String.ofList (results.map fun r => r.verdict.symbol))
  | .verbose => lines (results.map fun r => r.description ++ " ... " ++ r.verdict.label)

/-- How a report ends. -/
def tailText (results : Outcome) (nanoseconds : Nat) : String :=
  lines
    [lightRule,
      "Ran " ++ toString results.length ++ " test" ++ (if results.length = 1 then "" else "s") ++
        " in " ++ secondsText nanoseconds,
      "", results.summary]

/-- The block of a result that did not pass for the reason given in the message. -/
structure IsBlock (result : CheckResult) (message block : String) : Prop where
  message_eq : result.verdict.message = some message
  block_eq : block = lines
    [heavyRule, result.verdict.label ++ ": " ++ result.name ++ " (" ++ result.group ++ ")",
      result.description, lightRule, message, ""]
  tells : ∀ part ∈ [result.verdict.label, result.name, result.group, result.description, message],
    part.toList <:+: block.toList

lemma infix_lines {text : String} {texts : List String} (mem : text ∈ texts) :
    text.toList <:+: (lines texts).toList := by
  obtain ⟨front, back, rfl⟩ := List.append_of_mem mem
  refine ⟨(lines front).toList, '\n' :: (lines back).toList, ?_⟩
  simp [lines, line]

/-- Label, name and group stand in the line that opens a block. -/
lemma infix_opening (label name group : String) : ∀ part ∈ [label, name, group],
    part.toList <:+: (label ++ ": " ++ name ++ " (" ++ group ++ ")").toList := by
  have first : label.toList <:+: (label ++ ": " ++ name ++ " (" ++ group ++ ")").toList :=
    ⟨[], (": " ++ name ++ " (" ++ group ++ ")").toList, by simp⟩
  have second : name.toList <:+: (label ++ ": " ++ name ++ " (" ++ group ++ ")").toList :=
    ⟨(label ++ ": ").toList, (" (" ++ group ++ ")").toList, by simp⟩
  have third : group.toList <:+: (label ++ ": " ++ name ++ " (" ++ group ++ ")").toList :=
    ⟨(label ++ ": " ++ name ++ " (").toList, [')'], by simp⟩
  rw [List.forall_mem_cons, List.forall_mem_cons, List.forall_mem_singleton]
  exact ⟨first, second, third⟩

lemma isBlock_details {result : CheckResult} {message : String}
    (told : result.verdict.message = some message) : IsBlock result message (details result) := by
  have block_eq : details result = lines
      [heavyRule, result.verdict.label ++ ": " ++ result.name ++ " (" ++ result.group ++ ")",
        result.description, lightRule, message, ""] := by
    simp [details, told, lines, String.append_assoc]
  refine ⟨told, block_eq, ?_⟩
  intro part mem
  rw [block_eq]
  have opening := infix_opening result.verdict.label result.name result.group part
  simp only [List.mem_cons, List.not_mem_nil, or_false] at mem opening
  rcases mem with label | name | group | description | told
  · exact (opening (.inl label)).trans (infix_lines (by simp))
  · exact (opening (.inr (.inl name))).trans (infix_lines (by simp))
  · exact (opening (.inr (.inr group))).trans (infix_lines (by simp))
  · exact infix_lines (by simp [description])
  · exact infix_lines (by simp [told])

lemma exists_message {v : Verdict} (unpassed : v ≠ .passed) : ∃ message, v.message = some message := by
  cases v with
  | passed => exact absurd rfl unpassed
  | failed message => exact ⟨message, rfl⟩
  | errored message => exact ⟨message, rfl⟩

/-- Each result that did not pass has its block, in the order of the results. -/
lemma isBlock_problems (results : Outcome) :
    List.Forall₂ (fun result block => ∃ message, IsBlock result message block)
      (results.filter fun result => result.verdict ≠ .passed) (results.problems.map details) := by
  have problems_eq : results.problems = results.filter fun result => result.verdict ≠ .passed := by
    refine List.filter_congr fun result _ => ?_
    rw [decide_not, Bool.not_inj_iff, Bool.eq_iff_iff, decide_eq_true_iff]
    exact Outcome.isPassed_iff
  rw [problems_eq, List.forall₂_map_right_iff, List.forall₂_same]
  intro result mem
  have unpassed : result.verdict ≠ .passed := by simpa using (List.mem_filter.mp mem).2
  obtain ⟨message, told⟩ := exists_message unpassed
  exact ⟨message, isBlock_details told⟩

/-- What is written for all results is what is written for each, one after the other. Once that is
done there is progress, unless there are no results or the report is quiet. -/
lemma checksFinished_eq (r : Reporter) (results : List CheckResult) :
    r.checksFinished results = (String.join (results.map r.progress),
      { r with started := r.started || (r.verbosity ≠ .quiet && results ≠ []) }) := by
  induction results generalizing r with
  | nil => simp [checksFinished]
  | cons result rest ih =>
    have same_progress : ({ r with started := r.started || r.verbosity ≠ .quiet } : Reporter).progress =
        r.progress := rfl
    simp only [checksFinished, checkFinished, ih, same_progress, List.map_cons, String.join_cons,
      Prod.mk.injEq, Reporter.mk.injEq, true_and]
    by_cases quiet : r.verbosity = .quiet <;> simp [quiet]

/-- The reporter once all results have been told. -/
def finished (v : Verbosity) (results : Outcome) : Reporter :=
  { fresh v with started := v ≠ .quiet && results ≠ [] }

lemma checksFinished_fresh (v : Verbosity) (results : Outcome) : (fresh v).checksFinished results =
    (String.join (results.map (fresh v).progress), finished v results) :=
  checksFinished_eq (fresh v) results

lemma tail_finished (v : Verbosity) (results : Outcome) (nanoseconds : Nat) :
    (finished v results).tail results nanoseconds = tailText results nanoseconds := by
  simp [tail, tailText, finished, fresh, lines, countText, Text.Style.apply_false,
    String.append_assoc]

/-- Only the symbols of a minimal report still lack the end of their line when the checks are done. -/
lemma finish_finished (v : Verbosity) (results : Outcome) (nanoseconds : Nat) :
    (finished v results).finish results nanoseconds =
      (if v = .minimal ∧ results ≠ [] then line "" else "") ++
        (if v = .quiet then "" else String.join (results.problems.map details)) ++
        tailText results nanoseconds := by
  have unended : ((finished v results).verbosity = .minimal && (finished v results).started) =
      decide (v = .minimal ∧ results ≠ []) := by
    cases v <;> simp [finished, fresh]
  simp only [finish, unended, decide_eq_true_eq, tail_finished]
  rfl

lemma join_symbols (results : Outcome) :
    String.join (results.map fun r => r.verdict.symbol.toString) =
      String.ofList (results.map fun r => r.verdict.symbol) := by
  induction results with
  | nil => rfl
  | cons result rest ih =>
    rw [List.map_cons, List.map_cons, String.join_cons, String.ofList_cons, ih]
    rfl

lemma join_silence (results : Outcome) : String.join (results.map fun _ => "") = "" := by
  induction results with
  | nil => rfl
  | cons result rest ih => rw [List.map_cons, String.join_cons, ih, String.append_empty]

/-- The progress of each result in turn, with the end of the line, is that of the run. -/
lemma join_progress (v : Verbosity) (results : Outcome) :
    String.join (results.map (fresh v).progress) ++
      (if v = .minimal ∧ results ≠ [] then line "" else "") = progressText results v := by
  cases v with
  | quiet =>
    have progress_eq : (fresh .quiet).progress = fun _ => "" := rfl
    rw [progress_eq, join_silence, if_neg (by simp)]
    rfl
  | minimal =>
    have progress_eq : (fresh .minimal).progress = fun r => r.verdict.symbol.toString := rfl
    rw [progress_eq, join_symbols]
    by_cases empty : results = []
    · simp [empty, progressText]
    · simp [empty, progressText, line]
  | verbose =>
    have progress_eq : (fresh .verbose).progress =
        line ∘ fun r => r.description ++ " ... " ++ r.verdict.label := rfl
    rw [progress_eq, ← List.map_map, if_neg (by simp), String.append_empty]
    rfl

/-- At every verbosity, a report without colours is made of the notes, its progress, the blocks of
the results that did not pass, unless it is quiet, and the tail. -/
theorem report_laid_out (notes : List String) (results : Outcome) (nanoseconds : Nat) :
    ∃ blocks,
      List.Forall₂ (fun result block => ∃ message, IsBlock result message block)
        (results.filter fun result => result.verdict ≠ .passed) blocks ∧
      ∀ v, (fresh v).report notes results nanoseconds =
        lines notes ++ progressText results v ++ (if v = .quiet then "" else String.join blocks) ++
          tailText results nanoseconds := by
  refine ⟨results.problems.map details, isBlock_problems results, ?_⟩
  intro v
  simp only [report, checksFinished_fresh, finish_finished, ← join_progress v results,
    String.append_assoc]
  rfl

end Shakedown.Reporter
