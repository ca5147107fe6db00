import Mathlib.Tactic.Lemma
import Shakedown.Plan

/-!
Which groups a plan holds, and what the settings then hold.
-/

namespace Shakedown

namespace Settings
variable {s : Settings}

lemma present_eq_some_iff {value : Option String} {text : String} :
    present value = some text ↔ value = some text ∧ text ≠ "" := by
  cases value with
  | none => simp [present]
  | some given => simp only [present, Option.filter_eq_some_iff, decide_eq_true_eq]

lemma present_eq_none_iff {value : Option String} :
    present value = none ↔ value = none ∨ value = some "" := by
  cases value with
  | none => simp [present]
  | some given => simp [present, Option.filter_eq_none_iff]

lemma token_eq_some_iff {token : String} :
    s.token = some token ↔ s.userToken = some token ∧ token ≠ "" := present_eq_some_iff

lemma token_eq_none_iff : s.token = none ↔ s.userToken = none ∨ s.userToken = some "" :=
  present_eq_none_iff

lemma target_eq_some_iff {target : Orchestration} : s.target = some target ↔
    present s.orchestration.host = some target.host ∧
      present s.orchestration.workspaceNamespace = some target.workspaceNamespace ∧
      present s.orchestration.workspaceName = some target.workspaceName ∧
      s.token = some target.userToken := by
  simp only [Settings.target, Option.bind_eq_bind, Option.bind_eq_some_iff, Option.some.injEq]
  constructor
  · rintro ⟨host, host_eq, space, space_eq, name, name_eq, token, token_eq, rfl⟩
    exact ⟨host_eq, space_eq, name_eq, token_eq⟩
  · rintro ⟨host_eq, space_eq, name_eq, token_eq⟩
    exact ⟨_, host_eq, _, space_eq, _, name_eq, _, token_eq, rfl⟩

end Settings

namespace Plan
variable {s : Settings}

lemma mem_checks_iff {p : Plan} {group : Group} {check : Check} :
    (group, check) ∈ p.checks ↔ group ∈ p.groups ∧ check ∈ group.checks := by
  simp [checks]

lemma authenticated_mem_iff :
    Group.authenticated ∈ (ofSettings s).groups ↔
      ∃ token workspace, s.token = some token ∧ s.workspace = some workspace := by
  have elsewhere : Group.authenticated ∉ (orchestrationPart s).1 := by
    unfold orchestrationPart
    split
    · exact List.not_mem_nil
    · split <;> simp
  simp only [ofSettings, authenticatedPart, List.mem_append, List.mem_cons, elsewhere, or_false]
  cases token : s.token <;> cases workspace : s.workspace <;>
    simp [Settings.isAuthenticated, token, workspace]

lemma orchestration_mem_iff :
    Group.orchestration ∈ (ofSettings s).groups ↔ ∃ target, s.target = some target := by
  have elsewhere : Group.orchestration ∉ (authenticatedPart s).1 := by
    unfold authenticatedPart
    split <;> simp
  simp only [ofSettings, List.mem_append, List.mem_cons, elsewhere, reduceCtorEq, false_or]
  cases found : s.target with
  | none =>
    simp only [orchestrationPart, found]
    split <;> simp
  | some target =>
    have wanted : s.wantsOrchestration = true := by
      simp [Settings.wantsOrchestration, (Settings.target_eq_some_iff.mp found).1]
    simp [orchestrationPart, found, wanted]

end Plan
end Shakedown
