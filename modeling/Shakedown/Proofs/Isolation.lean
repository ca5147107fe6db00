import Shakedown.Proofs.SmokeRun

/-!
Checks carried out together and by themselves.

A steady service answers by the text of an address and the bearer token alone. With such a service
the cache that checks share shows in no verdict: a check comes to what it would come to by itself,
with nothing kept. So the order of checks decides nothing but the order of their results.
-/

namespace Shakedown

open Caller ReplyCache

/-- The service that answers a fetch by its pair, whatever it has been asked before. -/
def Service.steady (answer : Pair → Except Fault Reply) : Service := fun _ f => answer (keyOf f)

namespace Caller

/-- Everything that is kept is what the service would answer. -/
def Truthful (answer : Pair → Except Fault Reply) (c : Caller) : Prop :=
  ∀ pair reply, c.cache.entries.lookup pair = some reply → answer pair = .ok reply

variable {answer : Pair → Except Fault Reply} {c : Caller}

lemma truthful_start (calls : List Fetch) : Truthful answer { calls } := by
  intro pair reply found
  cases found

/-- A fetch through the cache of a steady service is a fetch past it. -/
lemma Truthful.fetch (truthful : Truthful answer c) (f : Fetch) :
    (c.fetch (.steady answer) f).1 = answer (keyOf f) ∧
      Truthful answer (c.fetch (.steady answer) f).2 := by
  have next : Truthful answer (c.fetch (.steady answer) f).2 := by
    intro pair reply found
    rcases lookup_fetch_cases found with before | ⟨rfl, brought, _⟩
    · exact truthful pair reply before
    · exact brought
  refine ⟨?_, next⟩
  cases brought : (c.fetch (.steady answer) f).1 with
  | ok reply => exact (next _ _ (find?_of_fetch_ok brought)).symm
  | error fault => exact (fetch_error brought).1.symm

end Caller

namespace Check

/-- Whether the check makes up the identifier of a job. -/
def draws : Check → Bool
  | .randomJob => true
  | .randomImportJob => true
  | _ => false

/-- The identifier that a check uses out of the one at hand. -/
def drawn (id : Uuid) (check : Check) : Option Uuid := if check.draws then some id else none

lemma run_eq_of_drawn_eq {check : Check} {id other : Uuid}
    (same : check.drawn id = check.drawn other) (settings : Settings) (service : Service)
    (c : Caller) : check.run settings service id c = check.run settings service other c := by
  cases draws : check.draws with
  | true =>
    have equal : id = other := by simpa [drawn, draws] using same
    rw [equal]
  | false =>
    have asked : check.fetch settings id = check.fetch settings other := by
      cases check with
      | randomJob => cases draws
      | randomImportJob => cases draws
      | _ => rfl
    simp only [run, asked]

variable {answer : Pair → Except Fault Reply} {c : Caller}

/-- With a steady service a check comes to the same whatever truth is kept already. -/
lemma run_steady (truthful : Truthful answer c) (settings : Settings) (id : Uuid)
    (check : Check) :
    (check.run settings (.steady answer) id c).1 =
        (check.run settings (.steady answer) id {}).1 ∧
      Truthful answer (check.run settings (.steady answer) id c).2 := by
  cases asked : check.fetch settings id with
  | error verdict =>
    rw [run_of_unasked asked, run_of_unasked asked]
    exact ⟨rfl, truthful⟩
  | ok f =>
    obtain ⟨together, next⟩ := truthful.fetch f
    have nothing : Truthful answer {} := truthful_start []
    obtain ⟨apart, _⟩ := nothing.fetch f
    rw [run_of_asked asked, run_of_asked asked]
    exact ⟨congrArg check.conclude (together.trans apart.symm), next⟩

end Check

namespace SmokeRun

/-- The result of a check that is carried out by itself. -/
def alone (settings : Settings) (service : Service) (id : Uuid) (item : Group × Check) :
    CheckResult :=
  resultOf item (item.2.run settings service id {}).1

/-- Checks in the order in which they are carried out, with the identifiers they draw. -/
def drawnInTurn (ids : Nat → Uuid) (items : List (Group × Check)) :
    List ((Group × Check) × Option Uuid) :=
  items.mapIdx fun i item => (item, item.2.drawn (ids i))

variable (settings : Settings) (answer : Pair → Except Fault Reply)

lemma alone_eq_of_drawn_eq {item : Group × Check} {id other : Uuid}
    (same : item.2.drawn id = item.2.drawn other) (service : Service) :
    alone settings service id item = alone settings service other item := by
  rw [alone, alone, Check.run_eq_of_drawn_eq same]

/-- The invariant of a walk: no result shows the checks before it, and nothing false is kept. -/
lemma walk_steady (ids : Nat → Uuid) (start : Progress) (fresh : start.results = [])
    (truthful : Truthful answer start.caller) (items : List (Group × Check)) :
    (walk settings (.steady answer) ids start items).results =
        items.mapIdx (fun i item => alone settings (.steady answer) (ids i) item) ∧
      Truthful answer (walk settings (.steady answer) ids start items).caller := by
  induction items using List.reverseRecOn with
  | nil => exact ⟨fresh, truthful⟩
  | append_singleton items last ih =>
    obtain ⟨results_eq, kept⟩ := ih
    have length_eq := (walk_abreast settings (.steady answer) ids start fresh items).length_eq
    obtain ⟨verdict_eq, next⟩ := Check.run_steady kept settings (ids items.length) last.2
    rw [walk_concat, step_eq, inTurn, length_eq, List.mapIdx_concat, results_eq, alone, verdict_eq]
    exact ⟨rfl, next⟩

/-- The results of checks that share one caller, whatever was announced and called before. -/
def together (service : Service) (ids : Nat → Uuid) (announced : List Event) (called : List Fetch)
    (items : List (Group × Check)) : Outcome :=
  (walk settings service ids { events := announced, caller := { calls := called } } items).results

/-- With a steady service every check of a sequence comes to what it comes to by itself, and
sequences of the same checks with the same identifiers have the same results, but for their
order. -/
theorem checks_in_any_order (announced : List Event) (called : List Fetch) (ids : Nat → Uuid)
    (items : List (Group × Check)) :
    together settings (.steady answer) ids announced called items =
        items.mapIdx (fun i item => alone settings (.steady answer) (ids i) item) ∧
      ∀ ids' items', (drawnInTurn ids items).Perm (drawnInTurn ids' items') →
        (together settings (.steady answer) ids announced called items).Perm
          (together settings (.steady answer) ids' announced called items') := by
  have apart : ∀ ids items, together settings (.steady answer) ids announced called items =
      items.mapIdx fun i item => alone settings (.steady answer) (ids i) item := fun ids items =>
    (walk_steady settings answer ids _ rfl (truthful_start called) items).1
  refine ⟨apart ids items, fun ids' items' same => ?_⟩
  -- a result depends on the check and on the identifier it draws, not on the place
  let result (drawn : (Group × Check) × Option Uuid) : CheckResult :=
    alone settings (.steady answer) (drawn.2.getD ⟨0⟩) drawn.1
  have of_drawn : ∀ ids items, together settings (.steady answer) ids announced called items =
      (drawnInTurn ids items).map result := by
    intro ids items
    rw [apart, drawnInTurn, List.mapIdx_eq_zipIdx_map, List.mapIdx_eq_zipIdx_map, List.map_map]
    refine List.map_congr_left fun place _ => alone_eq_of_drawn_eq _ ?_ _
    cases draws : place.1.2.draws <;> simp [Check.drawn, draws]
  rw [of_drawn, of_drawn]
  exact same.map result

end SmokeRun
end Shakedown
