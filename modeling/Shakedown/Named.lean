/-!
Lists of things with names, in ascending order of the names, each name once.

`insert` keeps that order. Of two things with one name the later stays.
-/

namespace Shakedown.Named

variable {α : Type}

/-- Adds a thing under a name, in place of an earlier one of that name. -/
def insert (name : String) (value : α) : List (String × α) → List (String × α)
  | [] => [(name, value)]
  | (other, old) :: rest =>
    if name < other then (name, value) :: (other, old) :: rest
    else if name = other then (name, value) :: rest
    else (other, old) :: insert name value rest

/-- Names ascend strictly. -/
def Ascending (things : List (String × α)) : Prop := things.Pairwise fun a b => a.1 < b.1

theorem ascending_nil : Ascending ([] : List (String × α)) := List.Pairwise.nil

theorem mem_insert {name : String} {value : α} {things : List (String × α)} {a : String × α}
    (h : a ∈ insert name value things) : a = (name, value) ∨ a ∈ things := by
  induction things with
  | nil => simpa [insert] using h
  | cons first rest ih =>
    obtain ⟨other, old⟩ := first
    unfold insert at h
    split at h
    · simpa using h
    · split at h
      · rcases List.mem_cons.1 h with h | h
        · exact .inl h
        · exact .inr (List.mem_cons_of_mem _ h)
      · rcases List.mem_cons.1 h with h | h
        · exact .inr (by simp [h])
        · exact (ih h).imp id (List.mem_cons_of_mem _)

theorem ascending_insert (name : String) (value : α) {things : List (String × α)}
    (h : Ascending things) : Ascending (insert name value things) := by
  induction things with
  | nil => simp [insert, Ascending]
  | cons first rest ih =>
    obtain ⟨other, old⟩ := first
    obtain ⟨above, ascending⟩ := List.pairwise_cons.1 h
    unfold insert
    split
    · next hlt =>
      refine List.pairwise_cons.2 ⟨fun a ha => ?_, h⟩
      rcases List.mem_cons.1 ha with rfl | ha
      · exact hlt
      · exact String.lt_trans hlt (above a ha)
    · split
      · next heq =>
        subst heq
        exact List.pairwise_cons.2 ⟨above, ascending⟩
      · next hlt hne =>
        have hgt : other < name := by
          rcases String.le_total name other with hle | hle
          · exact absurd (String.le_antisymm hle (String.not_lt.1 hlt)) hne
          · exact String.not_le.1 fun hle' => hne (String.le_antisymm hle' hle)
        refine List.pairwise_cons.2 ⟨fun a ha => ?_, ih ascending⟩
        rcases mem_insert ha with rfl | ha
        · exact hgt
        · exact above a ha

theorem lookup_eq_some_iff {name : String} {value : α} {things : List (String × α)}
    (ascending : Ascending things) :
    things.lookup name = some value ↔ (name, value) ∈ things := by
  induction things with
  | nil => simp
  | cons first rest ih =>
    obtain ⟨other, held⟩ := first
    obtain ⟨above, ascending⟩ := List.pairwise_cons.1 ascending
    by_cases same : name = other
    · subst same
      have absent : (name, value) ∉ rest := fun mem => String.lt_irrefl name (above _ mem)
      simp [absent, eq_comm]
    · have differ : (name == other) = false := beq_eq_false_iff_ne.2 same
      simp [List.lookup_cons, differ, same, ih ascending]

/-- The list of things that were given in any order. -/
def ofList (things : List (String × α)) : List (String × α) :=
  things.foldl (fun done thing => insert thing.1 thing.2 done) []

example : ofList [("b", 1), ("a", 2), ("b", 3)] = [("a", 2), ("b", 3)] := by decide

end Shakedown.Named
