import Shakedown.Proofs.Record.Comparison

/-!
How numbers compare.

Two numbers agree when the doubles nearest to them have the same value. Numbers of the same value
always do, and other numbers only when rounding confuses them. That takes integers of more digits
than a double holds: confused numbers both reach 2^53 and differ by one part in 2^52 at most. Short
of that, values that hold different numbers at one place do not agree, and a number that came back
changed is reported.
-/

namespace Shakedown

namespace Json.Number

variable {a b : Number}

lemma agrees_iff_value : a.agrees b = true ↔ a.toBinary64.value = b.toBinary64.value := by
  rw [agrees_iff, rounded, rounded, double.injEq, ← Binary64.sameValue_iff, Binary64.sameValue,
    beq_iff_eq]
  exact (value_inj (a := .double a.toBinary64) (b := .double b.toBinary64)).symm

/-- Different numbers that are rounded to the same double. -/
structure Confused (a b : Number) : Prop where
  differ : a.value ≠ b.value
  together : a.toBinary64.value = b.toBinary64.value

/-- Large numbers that are near to each other for their size. -/
structure LargeAndNear (a b : Number) : Prop where
  left_large : 2 ^ 53 ≤ |a.value|
  right_large : 2 ^ 53 ≤ |b.value|
  near : 2 ^ 53 * |a.value - b.value| ≤ |a.value| + |b.value|

lemma agrees_of_value_eq (same : a.value = b.value) : a.agrees b = true := by
  have scaled_eq : a.scaled = b.scaled := value_inj.mp same
  have rounded_eq : a.toBinary64.scaled = b.toBinary64.scaled := by
    cases a with
    | double x => exact scaled_eq.trans (toBinary64_of_scaled_eq scaled_eq.symm).symm
    | integer i =>
      cases b with
      | double y => exact (toBinary64_of_scaled_eq scaled_eq).trans scaled_eq
      | integer j =>
        rw [value_integer, value_integer, Int.cast_inj] at same
        rw [toBinary64, toBinary64, same]
  rw [agrees_iff_value, Binary64.value, Binary64.value, rounded_eq]

/-- Agreement tells by the value exactly where rounding does not confuse. -/
lemma agrees_iff_value_eq_iff :
    (a.agrees b = true ↔ a.value = b.value) ↔ ¬ a.Confused b := by
  constructor
  · rintro by_value ⟨differ, together⟩
    exact differ (by_value.mp (agrees_iff_value.mpr together))
  · intro clear
    refine ⟨?_, agrees_of_value_eq⟩
    intro agree
    by_contra differ
    exact clear ⟨differ, agrees_iff_value.mp agree⟩

/-- Only large numbers near to each other are confused: smaller ones are rounded to themselves. -/
lemma Confused.largeAndNear (confused : a.Confused b) : a.LargeAndNear b := by
  obtain ⟨differ, together⟩ := confused
  have near_left := a.toBinary64_value_near
  have near_right := b.toBinary64_value_near
  rw [← together] at near_right
  have near : 2 ^ 53 * |a.value - b.value| ≤ |a.value| + |b.value| :=
    calc 2 ^ 53 * |a.value - b.value|
        ≤ 2 ^ 53 * (|a.value - a.toBinary64.value| + |a.toBinary64.value - b.value|) :=
          mul_le_mul_of_nonneg_left (abs_sub_le _ _ _) (by norm_num)
      _ = 2 ^ 53 * |a.toBinary64.value - a.value| + 2 ^ 53 * |a.toBinary64.value - b.value| := by
          rw [abs_sub_comm a.value, mul_add]
      _ ≤ |a.value| + |b.value| := add_le_add near_left near_right
  rcases a.toBinary64_value_cases with exact_left | ⟨large_left, large⟩
  · rcases b.toBinary64_value_cases with exact_right | ⟨large_right, large⟩
    · rw [exact_left, exact_right] at together
      exact absurd together differ
    · rw [← together, exact_left] at large
      exact ⟨large, large_right, near⟩
  · rcases b.toBinary64_value_cases with exact_right | ⟨large_right, _⟩
    · rw [together, exact_right] at large
      exact ⟨large_left, large, near⟩
    · exact ⟨large_left, large_right, near⟩

/-- The integers 2^53 - 1, 2^53 and 2^53 + 1. No double stands between the last two. -/
private def edge (offset : Fin 3) : Number := .integer (0x20000000000000 - 1 + offset) (by omega)

lemma value_edge (offset : Fin 3) : (edge offset).value = 2 ^ 53 - 1 + (offset : ℕ) := by
  rw [edge, value_integer]
  push_cast
  norm_num

/-- The integers 2^53 and 2^53 + 1 agree, so agreement is not equality of values. -/
theorem agreement_is_not_by_value :
    ¬ ∀ a b : Number, (Json.number a).agrees (.number b) = true ↔ a.value = b.value := by
  intro by_value
  have agree : (Json.number (edge 1)).agrees (.number (edge 2)) = true := by decide +kernel
  have same := (by_value (edge 1) (edge 2)).mp agree
  rw [value_edge, value_edge] at same
  norm_num at same

end Json.Number

namespace Record

open Json

/-- Numbers compare by their values unless rounding confuses them, which it does only to large
numbers near to each other. Values that hold other numbers at one place do not agree, and such a
number that came back is reported. -/
theorem numbers_compare_by_value_unless_confused (a b : Number) :
    (((Json.number a).agrees (.number b) = true ↔ a.value = b.value) ↔ ¬ a.Confused b) ∧
    (a.Confused b → a.LargeAndNear b) ∧
    (a.value ≠ b.value → ¬ a.Confused b →
      (∀ (expected actual : Json) (path : List Step), expected.at? path = some (.number a) →
        actual.at? path = some (.number b) → expected.agrees actual = false) ∧
      ∀ (r : Record) (retrieved : Json) (name : String), (name, .number a) ∈ r.attributes →
        ReadBack retrieved name (.number b) →
          name ∈ (r.mismatches retrieved).map Mismatch.name) := by
  refine ⟨Number.agrees_iff_value_eq_iff, Number.Confused.largeAndNear, ?_⟩
  intro differ clear
  have disagree : ¬ a.agrees b = true := by
    intro agree
    exact clear ⟨differ, Number.agrees_iff_value.mp agree⟩
  refine ⟨?_, ?_⟩
  · intro expected actual path here there
    refine Bool.eq_false_of_not_eq_true ?_
    intro agree
    obtain ⟨partner, partner_eq, numbers_agree⟩ := agrees_at agree here
    obtain rfl : Json.number b = partner := Option.some.inj (there.symm.trans partner_eq)
    exact disagree numbers_agree
  · intro r retrieved name written back
    rw [mem_names_iff_of_readBack written back]
    exact disagree

private def census : Record where
  recordType := "census"
  id := "1"
  attributes := [("count", .number (Number.edge 0))]
  ascending := by simp [Named.Ascending]

private def censusBack : Json :=
  .object [("attributes", .object [("count", .number (Number.edge 1))])]

/-- Below 2^53 a count that came back one too high is reported. -/
theorem numbers_compare_by_value_unless_confused_census :
    (Number.edge 0).value ≠ (Number.edge 1).value ∧
      ¬ (Number.edge 0).Confused (Number.edge 1) ∧
      "count" ∈ (census.mismatches censusBack).map Mismatch.name := by
  obtain ⟨_, only_large, told⟩ :=
    numbers_compare_by_value_unless_confused (Number.edge 0) (Number.edge 1)
  have differ : (Number.edge 0).value ≠ (Number.edge 1).value := by
    rw [Number.value_edge, Number.value_edge]
    norm_num
  have clear : ¬ (Number.edge 0).Confused (Number.edge 1) := by
    intro confused
    have large := (only_large confused).left_large
    rw [Number.value_edge] at large
    norm_num at large
  have written : ("count", .number (Number.edge 0)) ∈ census.attributes :=
    List.mem_singleton.mpr rfl
  have back : ReadBack censusBack "count" (.number (Number.edge 1)) := ⟨_, rfl, rfl⟩
  exact ⟨differ, clear, (told differ clear).2 census censusBack "count" written back⟩

end Record
end Shakedown
