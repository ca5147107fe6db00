import Mathlib.Algebra.GroupWithZero.Nat
import Mathlib.Tactic.Lemma
import Shakedown.Url.Path

/-!
Where segments lead from a path.

Each segment but the last is one step of a walk, the last one arrives. A walk that never goes up
from where it set out descends: it leads to what it leads to from the root, below where it set out.
Any other walk leaves. Segments that are no dots are simply appended, and all others make a path
shorter.
-/

namespace Shakedown.Url.Path

variable {above : List String}

/-- The path, innermost segment first, after a segment that is not the last one. -/
def enter (above : List String) (s : String) : List String :=
  match move s with
  | .stay => above
  | .up => goUp above
  | .into => s :: above

/-- The same after the last segment. -/
def arrive (above : List String) (s : String) : List String :=
  match move s with
  | .stay => "" :: above
  | .up => "" :: goUp above
  | .into => s :: above

lemma enter_of_into {s : String} (said : move s = .into) : enter above s = s :: above := by
  simp only [enter, said]

lemma enter_of_stay {s : String} (said : move s = .stay) : enter above s = above := by
  simp only [enter, said]

lemma enter_of_up {s : String} (said : move s = .up) : enter above s = goUp above := by
  simp only [enter, said]

lemma arrive_of_into {s : String} (said : move s = .into) : arrive above s = s :: above := by
  simp only [arrive, said]

lemma arrive_of_stay {s : String} (said : move s = .stay) : arrive above s = "" :: above := by
  simp only [arrive, said]

lemma arrive_of_up {s : String} (said : move s = .up) : arrive above s = "" :: goUp above := by
  simp only [arrive, said]

lemma resolveOnto_nil (above : List String) : resolveOnto above [] = above.reverse := rfl

lemma resolveOnto_singleton (above : List String) (s : String) :
    resolveOnto above [s] = (arrive above s).reverse := by
  rw [resolveOnto]
  cases said : move s with
  | stay => rw [arrive_of_stay said]
  | up => rw [arrive_of_up said]
  | into => rw [arrive_of_into said]

lemma resolveOnto_cons_cons (above : List String) (s t : String) (rest : List String) :
    resolveOnto above (s :: t :: rest) = resolveOnto (enter above s) (t :: rest) := by
  rw [resolveOnto]
  · cases said : move s with
    | stay => rw [enter_of_stay said]
    | up => rw [enter_of_up said]
    | into => rw [enter_of_into said]
  · nofun

lemma arrive_ne_nil (above : List String) (s : String) : arrive above s ≠ [] := by
  cases said : move s with
  | stay => rw [arrive_of_stay said]; exact List.cons_ne_nil _ _
  | up => rw [arrive_of_up said]; exact List.cons_ne_nil _ _
  | into => rw [arrive_of_into said]; exact List.cons_ne_nil _ _

lemma resolveOnto_ne_nil {segments : List String} (present : segments ≠ []) (above : List String) :
    resolveOnto above segments ≠ [] := by
  induction segments generalizing above with
  | nil => exact absurd rfl present
  | cons s rest ih =>
    cases rest with
    | nil =>
      rw [resolveOnto_singleton, Ne, List.reverse_eq_nil_iff]
      exact arrive_ne_nil above s
    | cons t rest =>
      rw [resolveOnto_cons_cons]
      exact ih (List.cons_ne_nil t rest) _

/-! Segments without dots. -/

/-- No segment says to stay or to go up. -/
def Straight (segments : List String) : Prop := ∀ s ∈ segments, move s = .into

lemma resolveOnto_of_straight {segments : List String} (straight : Straight segments)
    (above : List String) : resolveOnto above segments = above.reverse ++ segments := by
  induction segments generalizing above with
  | nil => rw [resolveOnto_nil, List.append_nil]
  | cons s rest ih =>
    obtain ⟨s_into, rest_straight⟩ := List.forall_mem_cons.mp straight
    cases rest with
    | nil => rw [resolveOnto_singleton, arrive_of_into s_into, List.reverse_cons]
    | cons t rest =>
      rw [resolveOnto_cons_cons, enter_of_into s_into, ih rest_straight, List.reverse_cons,
        List.append_assoc, List.singleton_append]

/-- Segments without dots are appended. -/
lemma resolve_of_straight {segments : List String} (straight : Straight segments)
    (start : List String) : resolve start segments = start ++ segments := by
  rw [resolve, resolveOnto_of_straight straight, List.reverse_reverse]

/-! Empty segments at the end. -/

lemma resolveOnto_append_cons (above front : List String) (s : String) (rest : List String) :
    resolveOnto above (front ++ s :: rest) = resolveOnto (front.foldl enter above) (s :: rest) := by
  induction front generalizing above with
  | nil => rfl
  | cons t front ih =>
    obtain ⟨u, tail, behind⟩ := List.exists_cons_of_ne_nil
      (List.append_ne_nil_of_right_ne_nil front (List.cons_ne_nil s rest))
    rw [List.cons_append, behind, resolveOnto_cons_cons, ← behind, ih, List.foldl_cons]

lemma straight_replicate (n : Nat) : Straight (List.replicate n "") := by
  intro s mem
  obtain rfl := List.eq_of_mem_replicate mem
  decide

/-- The last segment leaves the path in the directory that one more slash enters. -/
lemma arrive_eq (above : List String) (s : String) :
    arrive above s = enter above s ∨ arrive above s = "" :: enter above s := by
  cases said : move s with
  | stay => rw [arrive_of_stay said, enter_of_stay said]; exact .inr rfl
  | up => rw [arrive_of_up said, enter_of_up said]; exact .inr rfl
  | into => rw [arrive_of_into said, enter_of_into said]; exact .inl rfl

/-- Slashes behind a path add empty segments to the directories that it leads to. -/
lemma exists_directories {segments : List String} (present : segments ≠ []) : ∃ dirs,
    (∃ n, resolve [] segments = dirs ++ List.replicate n "") ∧
      ∀ n, resolve [] (segments ++ List.replicate (n + 1) "") =
        dirs ++ List.replicate (n + 1) "" := by
  refine ⟨(segments.foldl enter []).reverse, ?_, fun n => ?_⟩
  · obtain ⟨front, last, rfl⟩ : ∃ front last, segments = front ++ [last] :=
      ⟨_, _, (List.dropLast_concat_getLast present).symm⟩
    rw [resolve, resolveOnto_append_cons, resolveOnto_singleton, List.foldl_append, List.foldl_cons,
      List.foldl_nil, List.reverse_nil]
    rcases arrive_eq (front.foldl enter []) last with same | empty
    · exact ⟨0, by rw [same, List.replicate_zero, List.append_nil]⟩
    · exact ⟨1, by rw [empty, List.reverse_cons, List.replicate_one]⟩
  · rw [resolve, List.replicate_succ, resolveOnto_append_cons, ← List.replicate_succ,
      resolveOnto_of_straight (straight_replicate (n + 1))]
    rfl

/-! Going up. -/

/-- The walk along segments never goes up from where it set out; `below` is how far it has got. -/
inductive Descends : (below segments : List String) → Prop
  | arrived (below : List String) : Descends below []
  | enters {below rest : List String} {s : String} (stays : move s = .up → below ≠ [])
      (goes_on : Descends (enter below s) rest) : Descends below (s :: rest)

lemma descends_cons_iff {below rest : List String} {s : String} :
    Descends below (s :: rest) ↔ (move s = .up → below ≠ []) ∧ Descends (enter below s) rest := by
  constructor
  · rintro (_ | ⟨stays, goes_on⟩)
    exact ⟨stays, goes_on⟩
  · rintro ⟨stays, goes_on⟩
    exact .enters stays goes_on

instance decidableDescends : (below segments : List String) → Decidable (Descends below segments)
  | below, [] => isTrue (.arrived below)
  | below, s :: rest =>
    have := decidableDescends (enter below s) rest
    decidable_of_iff _ (descends_cons_iff (s := s)).symm

lemma goUp_cons (s : String) (rest : List String) :
    goUp (s :: rest) = if isDrive s = true then s :: rest else rest := rfl

lemma goUp_append {below : List String} (present : below ≠ []) (above : List String) :
    goUp (below ++ above) = goUp below ++ above := by
  obtain ⟨s, rest, rfl⟩ := List.exists_cons_of_ne_nil present
  by_cases drive : isDrive s = true
  · rw [List.cons_append, goUp_cons, goUp_cons, if_pos drive, if_pos drive, List.cons_append]
  · rw [List.cons_append, goUp_cons, goUp_cons, if_neg drive, if_neg drive]

lemma enter_append {below : List String} {s : String} (stays : move s = .up → below ≠ [])
    (above : List String) : enter (below ++ above) s = enter below s ++ above := by
  cases said : move s with
  | stay => rw [enter_of_stay said, enter_of_stay said]
  | up => rw [enter_of_up said, enter_of_up said, goUp_append (stays said)]
  | into => rw [enter_of_into said, enter_of_into said, List.cons_append]

lemma arrive_append {below : List String} {s : String} (stays : move s = .up → below ≠ [])
    (above : List String) : arrive (below ++ above) s = arrive below s ++ above := by
  cases said : move s with
  | stay => rw [arrive_of_stay said, arrive_of_stay said, List.cons_append]
  | up => rw [arrive_of_up said, arrive_of_up said, goUp_append (stays said), List.cons_append]
  | into => rw [arrive_of_into said, arrive_of_into said, List.cons_append]

lemma resolveOnto_append {below segments : List String} (present : segments ≠ [])
    (descends : Descends below segments) (above : List String) :
    resolveOnto (below ++ above) segments = above.reverse ++ resolveOnto below segments := by
  induction segments generalizing below with
  | nil => exact absurd rfl present
  | cons s rest ih =>
    obtain ⟨stays, descends⟩ := descends_cons_iff.mp descends
    cases rest with
    | nil => rw [resolveOnto_singleton, resolveOnto_singleton, arrive_append stays,
        List.reverse_append]
    | cons t rest =>
      rw [resolveOnto_cons_cons, resolveOnto_cons_cons, enter_append stays]
      exact ih (List.cons_ne_nil t rest) descends

/-- A walk that descends leads below its start to what it leads to from the root. -/
lemma resolve_of_descends {segments : List String} (present : segments ≠ [])
    (descends : Descends [] segments) (start : List String) :
    resolve start segments = start ++ resolve [] segments := by
  have split := resolveOnto_append present descends start.reverse
  rw [List.nil_append, List.reverse_reverse] at split
  exact split

lemma mem_of_mem_goUp {x : String} (mem : x ∈ goUp above) : x ∈ above := by
  cases above with
  | nil => cases mem
  | cons s rest =>
    rw [goUp_cons] at mem
    split at mem
    · exact mem
    · exact List.mem_cons_of_mem s mem

lemma mem_of_mem_enter {x s : String} (mem : x ∈ enter above s) : x = s ∨ x ∈ above := by
  cases said : move s with
  | stay =>
    rw [enter_of_stay said] at mem
    exact .inr mem
  | up =>
    rw [enter_of_up said] at mem
    exact .inr (mem_of_mem_goUp mem)
  | into =>
    rw [enter_of_into said] at mem
    exact List.mem_cons.mp mem

lemma mem_of_mem_arrive {x s : String} (mem : x ∈ arrive above s) :
    x = "" ∨ x = s ∨ x ∈ above := by
  cases said : move s with
  | stay =>
    rw [arrive_of_stay said] at mem
    exact (List.mem_cons.mp mem).imp_right .inr
  | up =>
    rw [arrive_of_up said] at mem
    exact (List.mem_cons.mp mem).imp_right fun mem => .inr (mem_of_mem_goUp mem)
  | into =>
    rw [arrive_of_into said] at mem
    exact .inr (List.mem_cons.mp mem)

/-- Nothing gets into a path but the segments it is resolved from. -/
lemma mem_resolveOnto {x : String} {segments : List String}
    (mem : x ∈ resolveOnto above segments) : x = "" ∨ x ∈ segments ∨ x ∈ above := by
  induction segments generalizing above with
  | nil => exact .inr (.inr (List.mem_reverse.mp mem))
  | cons s rest ih =>
    cases rest with
    | nil =>
      rw [resolveOnto_singleton, List.mem_reverse] at mem
      rcases mem_of_mem_arrive mem with empty | rfl | mem
      · exact .inl empty
      · exact .inr (.inl List.mem_cons_self)
      · exact .inr (.inr mem)
    | cons t rest =>
      rw [resolveOnto_cons_cons] at mem
      rcases ih mem with empty | mem | mem
      · exact .inl empty
      · exact .inr (.inl (List.mem_cons_of_mem s mem))
      · rcases mem_of_mem_enter mem with rfl | mem
        · exact .inr (.inl List.mem_cons_self)
        · exact .inr (.inr mem)

/-- A walk that does not descend leaves a directory whose name it does not know. -/
lemma notMem_resolveOnto {d : String} {below segments : List String} (named : d ≠ "")
    (no_drive : isDrive d = false) (unknown : d ∉ segments) (apart : d ∉ below)
    (leaves : ¬ Descends below segments) : d ∉ resolveOnto (below ++ [d]) segments := by
  induction segments generalizing below with
  | nil => exact absurd (.arrived below) leaves
  | cons s rest ih =>
    rw [List.mem_cons, not_or] at unknown
    by_cases stays : move s = .up → below ≠ []
    · have later : ¬ Descends (enter below s) rest := fun descends =>
        leaves (.enters stays descends)
      have still_apart : d ∉ enter below s := by
        intro mem
        rcases mem_of_mem_enter mem with eq | mem
        · exact unknown.1 eq
        · exact apart mem
      cases rest with
      | nil => exact absurd (.arrived _) later
      | cons t rest =>
        rw [resolveOnto_cons_cons, enter_append stays]
        exact ih unknown.2 still_apart later
    · -- the walk goes up from where it set out, which is out of the directory
      obtain ⟨up, set_out⟩ := Classical.not_imp.mp stays
      obtain rfl : below = [] := Classical.not_not.mp set_out
      have gone : goUp [d] = [] := by rw [goUp_cons, if_neg (by simp [no_drive])]
      cases rest with
      | nil =>
        rw [List.nil_append, resolveOnto_singleton, arrive_of_up up, gone, List.reverse_singleton,
          List.mem_singleton]
        exact named
      | cons t rest =>
        have entered : enter ([] ++ [d]) s = [] := by
          rw [List.nil_append, enter_of_up up, gone]
        rw [resolveOnto_cons_cons, entered]
        intro mem
        rcases mem_resolveOnto mem with empty | known | nowhere
        · exact named empty
        · exact unknown.2 known
        · cases nowhere

/-! What a walk weighs. -/

section Weight
variable {w : String → Nat}

lemma sum_goUp_le (above : List String) : ((goUp above).map w).sum ≤ (above.map w).sum := by
  cases above with
  | nil => exact Nat.le_refl _
  | cons s rest =>
    rw [goUp_cons]
    split
    · exact Nat.le_refl _
    · rw [List.map_cons, List.sum_cons]
      exact Nat.le_add_left _ _

variable (heavy : ∀ s, move s ≠ .into → w "" < w s)
include heavy

lemma sum_enter_le (above : List String) (s : String) :
    ((enter above s).map w).sum ≤ (above.map w).sum + w s ∧
      (((enter above s).map w).sum = (above.map w).sum + w s → move s = .into) := by
  cases said : move s with
  | into =>
    rw [enter_of_into said, List.map_cons, List.sum_cons]
    exact ⟨Nat.le_of_eq (Nat.add_comm _ _), fun _ => rfl⟩
  | stay =>
    have lighter := heavy s (by simp [said])
    rw [enter_of_stay said]
    exact ⟨by omega, fun same => by omega⟩
  | up =>
    have lighter := heavy s (by simp [said])
    have up_le := sum_goUp_le (w := w) above
    rw [enter_of_up said]
    exact ⟨by omega, fun same => by omega⟩

lemma sum_arrive_le (above : List String) (s : String) :
    ((arrive above s).map w).sum ≤ (above.map w).sum + w s ∧
      (((arrive above s).map w).sum = (above.map w).sum + w s → move s = .into) := by
  cases said : move s with
  | into =>
    rw [arrive_of_into said, List.map_cons, List.sum_cons]
    exact ⟨Nat.le_of_eq (Nat.add_comm _ _), fun _ => rfl⟩
  | stay =>
    have lighter := heavy s (by simp [said])
    rw [arrive_of_stay said, List.map_cons, List.sum_cons]
    exact ⟨by omega, fun same => by omega⟩
  | up =>
    have lighter := heavy s (by simp [said])
    have up_le := sum_goUp_le (w := w) above
    rw [arrive_of_up said, List.map_cons, List.sum_cons]
    exact ⟨by omega, fun same => by omega⟩

/-- If every dot weighs more than an empty segment, a path never weighs more than the segments it is
resolved from, and as much only if there are no dots among them. -/
lemma sum_resolveOnto_le (above segments : List String) :
    ((resolveOnto above segments).map w).sum ≤ (above.map w).sum + (segments.map w).sum ∧
      (((resolveOnto above segments).map w).sum = (above.map w).sum + (segments.map w).sum →
        Straight segments) := by
  induction segments generalizing above with
  | nil =>
    rw [resolveOnto_nil, List.map_reverse, List.sum_reverse]
    exact ⟨Nat.le_add_right _ _, fun _ => List.forall_mem_nil _⟩
  | cons s rest ih =>
    cases rest with
    | nil =>
      obtain ⟨le, straight⟩ := sum_arrive_le heavy above s
      rw [resolveOnto_singleton, List.map_reverse, List.sum_reverse, List.map_singleton,
        List.sum_singleton]
      exact ⟨le, fun same => List.forall_mem_singleton.mpr (straight same)⟩
    | cons t rest =>
      obtain ⟨le, straight⟩ := sum_enter_le heavy above s
      obtain ⟨later_le, later_straight⟩ := ih (enter above s)
      rw [resolveOnto_cons_cons, List.map_cons, List.sum_cons]
      constructor
      · omega
      · intro same
        exact List.forall_mem_cons.mpr ⟨straight (by omega), later_straight (by omega)⟩

end Weight
end Shakedown.Url.Path
