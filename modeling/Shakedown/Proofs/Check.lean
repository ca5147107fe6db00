import Shakedown.Check
import Shakedown.Proofs.ReplyCache

/-!
Carrying out one check.

A check that has no fetch ends without a call. Any other makes at most one call, and ends by what
its fetch is answered.
-/

namespace Shakedown.Check

/-- What a check comes to when its fetch is answered. -/
def conclude (check : Check) : Except Fault Reply → Verdict
  | .ok reply => check.judge reply
  | .error fault => .ofFault fault

section Run
variable {settings : Settings} {id : Uuid} {check : Check}

lemma run_of_unasked {verdict : Verdict} (unasked : check.fetch settings id = .error verdict)
    (service : Service) (c : Caller) : check.run settings service id c = (verdict, c) := by
  simp only [run, unasked]

lemma run_of_asked {f : Fetch} (asked : check.fetch settings id = .ok f)
    (service : Service) (c : Caller) :
    check.run settings service id c =
      (check.conclude (c.fetch service f).1, (c.fetch service f).2) := by
  simp only [run, asked]
  cases answered : c.fetch service f with
  | mk answer after => cases answer <;> rfl

/-- The fetch of a check, if there is one. -/
def asks (settings : Settings) (id : Uuid) (check : Check) : List Fetch :=
  (check.fetch settings id).toOption.toList

lemma mem_asks_iff {f : Fetch} :
    f ∈ check.asks settings id ↔ check.fetch settings id = .ok f := by
  cases asked : check.fetch settings id <;> simp [asks, asked, Except.toOption, eq_comm]

/-- A check calls the service for its own fetch and for nothing else, and that at most once. -/
lemma run_calls (settings : Settings) (service : Service) (id : Uuid) (c : Caller)
    (check : Check) : ∃ made, made.Sublist (check.asks settings id) ∧
      (check.run settings service id c).2.calls = c.calls ++ made := by
  cases asked : check.fetch settings id with
  | error verdict =>
    refine ⟨[], List.nil_sublist _, ?_⟩
    rw [run_of_unasked asked, List.append_nil]
  | ok f =>
    rw [run_of_asked asked]
    have own : check.asks settings id = [f] := by simp [asks, asked, Except.toOption]
    cases kept : c.cache.find? f with
    | some reply =>
      refine ⟨[], List.nil_sublist _, ?_⟩
      rw [Caller.fetch_of_kept service kept, List.append_nil]
    | none => exact ⟨[f], own ▸ List.Sublist.refl _, (Caller.fetch_of_new service kept).2⟩

end Run
end Shakedown.Check
