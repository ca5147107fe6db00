import Mathlib.Algebra.Order.Field.Basic
import Mathlib.Algebra.Order.Field.Rat
import Mathlib.Tactic.Lemma
import Mathlib.Tactic.Linarith
import Mathlib.Tactic.Ring
import Shakedown.Json.Number

/-!
What rounding to binary64 keeps of a whole number.

A quotient is rounded to a whole number of steps of one size. There are at most 2^53 of them, and at
least 2^52 unless the steps are the smallest there are. So a whole number of at most 53 binary
digits stays as it is, a larger one stays large, and either moves by at most one part in 2^53.
-/

namespace Shakedown

section roundDiv

variable {num den k : Nat}

/-- The nearest whole number is the quotient cut off or the one after it. -/
lemma roundDiv_cases (num den : Nat) :
    (roundDiv num den = num / den ∧ 2 * (num % den) ≤ den) ∨
      (roundDiv num den = num / den + 1 ∧ den ≤ 2 * (num % den)) := by
  unfold roundDiv
  dsimp only
  split
  · right
    omega
  · split <;> omega

lemma le_roundDiv (pos : 0 < den) (below : k * den ≤ num) : k ≤ roundDiv num den := by
  have cut : k ≤ num / den := (Nat.le_div_iff_mul_le pos).mpr below
  rcases roundDiv_cases num den with ⟨eq, _⟩ | ⟨eq, _⟩ <;> omega

lemma roundDiv_le (pos : 0 < den) (above : num ≤ k * den) : roundDiv num den ≤ k := by
  have split_num : den * (num / den) + num % den = num := Nat.div_add_mod num den
  rcases roundDiv_cases num den with ⟨eq, _⟩ | ⟨eq, half⟩
  · rw [eq]
    exact Nat.div_le_of_le_mul (by rwa [Nat.mul_comm])
  · -- The quotient is no whole number, so it lies below `k` and the next one does not pass it.
    have below : den * (num / den) < den * k := by
      rw [Nat.mul_comm den k]
      omega
    have : num / den < k := Nat.lt_of_mul_lt_mul_left below
    omega

lemma roundDiv_mul (pos : 0 < den) (k : Nat) : roundDiv (k * den) den = k :=
  Nat.le_antisymm (roundDiv_le pos le_rfl) (le_roundDiv pos le_rfl)

/-- Rounding moves by at most half a step. -/
lemma roundDiv_near (pos : 0 < den) (num : Nat) :
    2 * (roundDiv num den * den) ≤ 2 * num + den ∧
      2 * num ≤ 2 * (roundDiv num den * den) + den := by
  have split_num : num / den * den + num % den = num := Nat.div_add_mod' num den
  have rest : num % den < den := Nat.mod_lt _ pos
  rcases roundDiv_cases num den with ⟨eq, near⟩ | ⟨eq, near⟩
  · rw [eq]
    omega
  · have next : (num / den + 1) * den = num / den * den + den := Nat.succ_mul _ _
    rw [eq, next]
    omega

end roundDiv

namespace Binary64

lemma groupSize_eq : groupSize = 2 ^ 52 := by norm_num [groupSize]

/-- The units in one, as a power of two. -/
@[irreducible]
def unitExponent : Nat := 1074

lemma unit_eq : unit = 2 ^ unitExponent := by
  unfold unit unitExponent
  -- As a variable, so that nobody computes the power.
  generalize 1074 = k
  exact Nat.one_shiftLeft k

lemma unit_pos : 0 < unit := by
  rw [unit_eq]
  exact Nat.two_pow_pos _

lemma groupSize_pos : 0 < groupSize := by norm_num [groupSize]

/-- From one power of two to the next the magnitudes are the multiples of one step. -/
lemma magnitudeAt_add {shift m : Nat} (few : m ≤ 2 * groupSize)
    (many : shift = 0 ∨ groupSize ≤ m) : magnitudeAt (shift * groupSize + m) = m * 2 ^ shift := by
  have pos := groupSize_pos
  unfold magnitudeAt
  dsimp only
  rw [Nat.add_comm, Nat.add_mul_div_right _ _ pos, Nat.add_mul_mod_self_right]
  rcases Nat.lt_or_ge m groupSize with small | large
  · obtain rfl : shift = 0 := many.resolve_right (by omega)
    rw [Nat.div_eq_of_lt small]
    simp
  · rcases Nat.lt_or_ge m (2 * groupSize) with within | beyond
    · have one : m / groupSize = 1 := Nat.div_eq_of_lt_le (by omega) (by omega)
      have rest : m % groupSize = m - groupSize := by
        rw [Nat.mod_eq_sub_mod large, Nat.mod_eq_of_lt (by omega)]
      rw [one, rest, if_neg (by omega), Nat.add_sub_cancel' large, Nat.shiftLeft_eq,
        Nat.add_sub_cancel_left]
    · obtain rfl : m = 2 * groupSize := Nat.le_antisymm few beyond
      rw [Nat.mul_div_cancel _ pos, Nat.mul_mod_left, if_neg (by omega), Nat.shiftLeft_eq]
      have two : 2 + shift - 1 = shift + 1 := by omega
      rw [two, Nat.pow_succ]
      ring

/-- A quotient is rounded to a whole number of steps of size `2 ^ shift`. -/
structure Steps (num den shift : Nat) : Prop where
  ordinal_eq : nearestOrdinal num den =
    shift * groupSize + roundDiv (num * unit) (den * 2 ^ shift)
  many : shift = 0 ∨ groupSize * (den * 2 ^ shift) ≤ num * unit
  few : num * unit ≤ 2 * groupSize * (den * 2 ^ shift)

lemma exists_steps {den : Nat} (pos : 0 < den) (num : Nat) : ∃ shift, Steps num den shift := by
  let q := num * unit / den
  let shift := q.log2 - 52
  have q_le : q * den ≤ num * unit := Nat.div_mul_le_self _ _
  have lt_q : num * unit < (q + 1) * den := by
    rw [Nat.mul_comm (q + 1)]
    exact Nat.lt_mul_div_succ _ pos
  refine ⟨shift, ?_, ?_, ?_⟩
  · rw [nearestOrdinal, Nat.shiftLeft_eq]
  · rcases Nat.eq_zero_or_pos shift with none | some
    · exact .inl none
    · right
      have q_ne : q ≠ 0 := by
        intro zero
        simp [shift, zero] at some
      have large : 2 ^ (52 + shift) ≤ q := by
        have : 52 + shift = q.log2 := by omega
        rw [this]
        exact Nat.log2_self_le q_ne
      calc groupSize * (den * 2 ^ shift) = 2 ^ (52 + shift) * den := by
            rw [groupSize_eq, Nat.pow_add]
            ring
        _ ≤ q * den := Nat.mul_le_mul_right _ large
        _ ≤ num * unit := q_le
  · have small : q < 2 ^ (53 + shift) := by
      have : q.log2 + 1 ≤ 53 + shift := by omega
      exact Nat.lt_of_lt_of_le Nat.lt_log2_self (Nat.pow_le_pow_right (by norm_num) this)
    calc num * unit ≤ (q + 1) * den := lt_q.le
      _ ≤ 2 ^ (53 + shift) * den := Nat.mul_le_mul_right _ small
      _ = 2 * groupSize * (den * 2 ^ shift) := by
            rw [groupSize_eq, Nat.pow_add]
            ring

namespace Steps

variable {num den shift : Nat}

lemma roundDiv_le (steps : Steps num den shift) (pos : 0 < den) :
    roundDiv (num * unit) (den * 2 ^ shift) ≤ 2 * groupSize :=
  Shakedown.roundDiv_le (Nat.mul_pos pos (Nat.two_pow_pos _)) steps.few

lemma le_roundDiv (steps : Steps num den shift) (pos : 0 < den) :
    shift = 0 ∨ groupSize ≤ roundDiv (num * unit) (den * 2 ^ shift) :=
  steps.many.imp_right (Shakedown.le_roundDiv (Nat.mul_pos pos (Nat.two_pow_pos _)))

lemma magnitude_eq (steps : Steps num den shift) (pos : 0 < den) :
    magnitudeAt (nearestOrdinal num den) =
      roundDiv (num * unit) (den * 2 ^ shift) * 2 ^ shift := by
  rw [steps.ordinal_eq, magnitudeAt_add (steps.roundDiv_le pos) (steps.le_roundDiv pos)]

end Steps

/-- The magnitude that a whole number is rounded to. -/
def nearestMagnitude (n : Nat) : Nat := magnitudeAt (nearestOrdinal n 1)

variable {n : Nat}

lemma exists_nearestMagnitude (n : Nat) : ∃ shift, Steps n 1 shift ∧
    nearestMagnitude n = roundDiv (n * unit) (2 ^ shift) * 2 ^ shift := by
  obtain ⟨shift, steps⟩ := exists_steps Nat.one_pos n
  refine ⟨shift, steps, ?_⟩
  rw [nearestMagnitude, steps.magnitude_eq Nat.one_pos, Nat.one_mul]

/-- A number of at most 53 binary digits has no digit below the steps it is rounded in. -/
lemma steps_dvd {m e shift : Nat} (few : m ≤ 2 ^ 53) (many : 2 ^ (52 + shift) ≤ m * 2 ^ e) :
    2 ^ shift ∣ m * 2 ^ e := by
  have top : m * 2 ^ e ≤ 2 ^ (53 + e) := by
    rw [Nat.pow_add]
    exact Nat.mul_le_mul_right _ few
  have shift_le : 52 + shift ≤ 53 + e :=
    (Nat.pow_le_pow_iff_right Nat.one_lt_two).mp (many.trans top)
  rcases Nat.lt_or_ge e shift with beyond | within
  · -- Only 2^53 itself is rounded in steps of two.
    obtain rfl : shift = e + 1 := by omega
    have same : 52 + (e + 1) = 53 + e := by omega
    have whole : m * 2 ^ e = 2 ^ (53 + e) := Nat.le_antisymm top (by rwa [same] at many)
    rw [whole]
    exact Nat.pow_dvd_pow 2 (by omega)
  · exact Nat.dvd_mul_left_of_dvd (Nat.pow_dvd_pow 2 within) m

lemma nearestMagnitude_of_digits {m e : Nat} (few : m ≤ 2 ^ 53) (whole : n * unit = m * 2 ^ e) :
    nearestMagnitude n = n * unit := by
  obtain ⟨shift, steps, magnitude_eq⟩ := exists_nearestMagnitude n
  have divides : 2 ^ shift ∣ n * unit := by
    rcases steps.many with rfl | many
    · exact Nat.one_dvd _
    · rw [Nat.one_mul, groupSize_eq, ← Nat.pow_add] at many
      rw [whole] at many ⊢
      exact steps_dvd few many
  obtain ⟨k, counted⟩ := divides
  rw [magnitude_eq, counted, Nat.mul_comm (2 ^ shift), roundDiv_mul (Nat.two_pow_pos _)]

lemma nearestMagnitude_of_le (small : n ≤ 2 ^ 53) : nearestMagnitude n = n * unit :=
  nearestMagnitude_of_digits small (by rw [unit_eq])

/-- No number is rounded below a power of two that it reaches. -/
lemma two_pow_le_nearestMagnitude {k : Nat} (reached : 2 ^ k ≤ n * unit) :
    2 ^ k ≤ nearestMagnitude n := by
  obtain ⟨shift, steps, magnitude_eq⟩ := exists_nearestMagnitude n
  rw [magnitude_eq]
  rcases Nat.lt_or_ge k shift with finer | coarser
  · have some : 1 ≤ roundDiv (n * unit) (2 ^ shift) := by
      have many := steps.le_roundDiv Nat.one_pos
      have pos := groupSize_pos
      rw [Nat.one_mul] at many
      omega
    calc 2 ^ k ≤ 2 ^ shift := Nat.pow_le_pow_right Nat.two_pos finer.le
      _ ≤ roundDiv (n * unit) (2 ^ shift) * 2 ^ shift := Nat.le_mul_of_pos_left _ some
  · have whole : 2 ^ (k - shift) * 2 ^ shift = 2 ^ k := by
      rw [← Nat.pow_add, Nat.sub_add_cancel coarser]
    rw [← whole] at reached ⊢
    exact Nat.mul_le_mul_right _ (Shakedown.le_roundDiv (Nat.two_pow_pos _) reached)

lemma le_nearestMagnitude (large : 2 ^ 53 ≤ n) : 2 ^ 53 * unit ≤ nearestMagnitude n := by
  have reached : 2 ^ 53 * unit ≤ n * unit := Nat.mul_le_mul_right _ large
  rw [unit_eq, ← Nat.pow_add] at *
  exact two_pow_le_nearestMagnitude (by rwa [unit_eq])

/-- A whole number moves by at most one part in 2^53. -/
lemma nearestMagnitude_near (n : Nat) :
    2 ^ 53 * nearestMagnitude n ≤ 2 ^ 53 * (n * unit) + n * unit ∧
      2 ^ 53 * (n * unit) ≤ 2 ^ 53 * nearestMagnitude n + n * unit := by
  obtain ⟨shift, steps, magnitude_eq⟩ := exists_nearestMagnitude n
  rw [magnitude_eq]
  rcases steps.many with rfl | many
  · rw [Nat.pow_zero, Nat.mul_one, ← Nat.mul_one (n * unit), roundDiv_mul Nat.one_pos]
    omega
  · rw [Nat.one_mul, groupSize_eq] at many
    have near := roundDiv_near (Nat.two_pow_pos shift) (n * unit)
    omega

lemma nearestOrdinal_finite (small : n < 2 ^ 64) : nearestOrdinal n 1 < 2047 * groupSize := by
  obtain ⟨shift, steps⟩ := exists_steps Nat.one_pos n
  have shift_lt : shift < 1086 := by
    rcases steps.many with none | many
    · omega
    · have bound : 2 ^ (52 + shift) < 2 ^ (64 + unitExponent) :=
        calc 2 ^ (52 + shift) = groupSize * (1 * 2 ^ shift) := by
              rw [Nat.one_mul, groupSize_eq, Nat.pow_add]
          _ ≤ n * unit := many
          _ < 2 ^ 64 * unit := Nat.mul_lt_mul_of_pos_right small unit_pos
          _ = 2 ^ (64 + unitExponent) := by rw [unit_eq, Nat.pow_add]
      have : 52 + shift < 64 + unitExponent := (Nat.pow_lt_pow_iff_right Nat.one_lt_two).mp bound
      rw [unitExponent] at this
      omega
  have few := steps.roundDiv_le Nat.one_pos
  have ordinal_eq := steps.ordinal_eq
  have pos := groupSize_pos
  have : shift * groupSize ≤ 1085 * groupSize := Nat.mul_le_mul_right _ (by omega)
  omega

/-- An integer keeps its sign. -/
lemma scaled_ofInt {i : Int} (small : i.natAbs < 2 ^ 64) :
    (ofInt i).scaled = i.sign * nearestMagnitude i.natAbs := by
  have finite := nearestOrdinal_finite small
  have scaled_eq : (ofInt i).scaled =
      if i < 0 then -(nearestMagnitude i.natAbs : ℤ) else nearestMagnitude i.natAbs := by
    simp only [ofInt, nearest?, dif_pos finite, Option.getD_some, scaled, decide_eq_true_eq]
    rfl
  rw [scaled_eq]
  rcases lt_trichotomy i 0 with below | rfl | above
  · rw [if_pos below, Int.sign_eq_neg_one_of_neg below, neg_one_mul]
  · simp [nearestMagnitude_of_le]
  · rw [if_neg (by omega), Int.sign_eq_one_of_pos above, one_mul]

/-- An ordinal is told by a step size and how many steps there are. -/
lemma exists_shift (ordinal : Nat) : ∃ shift m, ordinal = shift * groupSize + m ∧
    m < 2 * groupSize ∧ (shift = 0 ∨ groupSize ≤ m) := by
  rcases Nat.lt_or_ge ordinal (2 * groupSize) with small | large
  · exact ⟨0, ordinal, by omega, small, .inl rfl⟩
  · have pos := groupSize_pos
    have two : 2 ≤ ordinal / groupSize := (Nat.le_div_iff_mul_le pos).mpr large
    have split_ordinal : ordinal / groupSize * groupSize + ordinal % groupSize = ordinal :=
      Nat.div_add_mod' _ _
    have less : (ordinal / groupSize - 1) * groupSize + groupSize =
        ordinal / groupSize * groupSize := by
      rw [← Nat.succ_mul]
      congr 1
      omega
    have rest := Nat.mod_lt ordinal pos
    exact ⟨ordinal / groupSize - 1, groupSize + ordinal % groupSize, by omega, by omega, by omega⟩

lemma magnitudeAt_lt {shift m shift' m' : Nat} (few : m < 2 * groupSize) (many : groupSize ≤ m')
    (finer : shift < shift') : m * 2 ^ shift < m' * 2 ^ shift' :=
  calc m * 2 ^ shift < 2 * groupSize * 2 ^ shift :=
        Nat.mul_lt_mul_of_pos_right few (Nat.two_pow_pos _)
    _ = groupSize * 2 ^ (shift + 1) := by
        rw [Nat.pow_succ]
        ring
    _ ≤ m' * 2 ^ shift' := Nat.mul_le_mul many (Nat.pow_le_pow_right Nat.two_pos finer)

/-- Every magnitude has one ordinal. -/
lemma magnitudeAt_injective : Function.Injective magnitudeAt := by
  intro ordinal other same
  obtain ⟨shift, m, rfl, few, many⟩ := exists_shift ordinal
  obtain ⟨shift', m', rfl, few', many'⟩ := exists_shift other
  rw [magnitudeAt_add few.le many, magnitudeAt_add few'.le many'] at same
  rcases lt_trichotomy shift shift' with finer | rfl | coarser
  · have := magnitudeAt_lt few (many'.resolve_left (by omega)) finer
    omega
  · rw [Nat.eq_of_mul_eq_mul_right (Nat.two_pow_pos _) same]
  · have := magnitudeAt_lt few' (many.resolve_left (by omega)) coarser
    omega

/-- A whole number that is a magnitude stays. -/
lemma nearestMagnitude_of_magnitude {ordinal : Nat} (whole : n * unit = magnitudeAt ordinal) :
    nearestMagnitude n = n * unit := by
  obtain ⟨shift, m, rfl, few, many⟩ := exists_shift ordinal
  rw [magnitudeAt_add few.le many] at whole
  have digits : m ≤ 2 ^ 53 := by
    rw [groupSize_eq] at few
    omega
  exact nearestMagnitude_of_digits digits whole

lemma magnitudeAt_eq_zero_iff {ordinal : Nat} : magnitudeAt ordinal = 0 ↔ ordinal = 0 := by
  have zero : magnitudeAt 0 = 0 := by simp [magnitudeAt]
  rw [← magnitudeAt_injective.eq_iff (a := ordinal), zero]

/-- Zero without its sign, and every other number as it is. -/
def plain (x : Binary64) : Binary64 := { x with negative := x.negative && x.ordinal ≠ 0 }

lemma scaled_plain (x : Binary64) : x.plain.scaled = x.scaled := by
  by_cases zero : x.ordinal = 0
  · have none : x.magnitude = 0 := magnitudeAt_eq_zero_iff.mpr zero
    have also_none : x.plain.magnitude = 0 := none
    simp [scaled, none, also_none]
  · simp [plain, zero]

lemma natAbs_scaled (x : Binary64) : x.scaled.natAbs = x.magnitude := by
  unfold scaled
  split
  · rw [Int.natAbs_neg, Int.natAbs_natCast]
  · rw [Int.natAbs_natCast]

/-- A number other than zero has the sign of its value. -/
lemma negative_iff {x : Binary64} (present : x.ordinal ≠ 0) : x.negative = true ↔ x.scaled < 0 := by
  have above : 0 < x.magnitude := Nat.pos_of_ne_zero (mt magnitudeAt_eq_zero_iff.mp present)
  unfold scaled
  split
  · next negative => exact iff_of_true negative (by omega)
  · next positive => exact iff_of_false positive (by omega)

/-- Numbers have the same value when they are the same but for the sign of zero. -/
lemma sameValue_iff {x y : Binary64} : x.sameValue y = true ↔ x.plain = y.plain := by
  rw [sameValue, beq_iff_eq]
  constructor
  · intro same
    have magnitude_eq : x.magnitude = y.magnitude := by
      rw [← natAbs_scaled, ← natAbs_scaled, same]
    have ordinal_eq : x.ordinal = y.ordinal := magnitudeAt_injective magnitude_eq
    have sign_eq : (x.negative && x.ordinal ≠ 0) = (y.negative && y.ordinal ≠ 0) := by
      by_cases zero : x.ordinal = 0
      · simp [zero, ← ordinal_eq]
      · have also : y.ordinal ≠ 0 := by rwa [← ordinal_eq]
        have : x.negative = y.negative := by
          rw [Bool.eq_iff_iff, negative_iff zero, negative_iff also, same]
        simp [this, zero, also]
    simp only [plain, mk.injEq]
    exact ⟨sign_eq, ordinal_eq⟩
  · intro same
    rw [← scaled_plain, same, scaled_plain]

/-- The exact value. -/
def value (x : Binary64) : ℚ := x.scaled / unit

end Binary64

namespace Json.Number

open Binary64

/-- The exact value. -/
def value (n : Number) : ℚ := n.scaled / unit

lemma unit_ne_zero : (unit : ℚ) ≠ 0 := Nat.cast_ne_zero.mpr unit_pos.ne'

lemma value_integer (i : Int) (inRange) : (integer i inRange).value = i := by
  rw [value, scaled, Int.cast_mul, Int.cast_natCast, mul_div_cancel_right₀ _ unit_ne_zero]

lemma value_inj {a b : Number} : a.value = b.value ↔ a.scaled = b.scaled := by
  rw [value, value, div_left_inj' unit_ne_zero, Int.cast_inj]

/-- An integer in units, sign apart. -/
lemma scaled_integer (i : Int) (inRange) :
    (integer i inRange).scaled = i.sign * (i.natAbs * unit : ℕ) := by
  rw [scaled, Nat.cast_mul, ← mul_assoc, Int.sign_mul_natAbs]

/-- A number stays as it is when it is rounded, unless it reaches 2^53. -/
lemma toBinary64_cases (n : Number) : n.toBinary64.scaled = n.scaled ∨
    2 ^ 53 * (unit : ℤ) ≤ |n.scaled| ∧ 2 ^ 53 * (unit : ℤ) ≤ |n.toBinary64.scaled| := by
  cases n with
  | double x => exact .inl rfl
  | integer i inRange =>
    have small : i.natAbs < 2 ^ 64 := by omega
    rw [toBinary64, scaled_ofInt small, scaled_integer]
    rcases Nat.lt_or_ge (2 ^ 53) i.natAbs with many | few
    · right
      have sign_abs : |i.sign| = 1 := by
        rw [Int.abs_eq_natAbs, Int.natAbs_sign_of_ne_zero (by omega), Nat.cast_one]
      have reached : 2 ^ 53 * unit ≤ i.natAbs * unit := Nat.mul_le_mul_right _ many.le
      have stays : 2 ^ 53 * unit ≤ nearestMagnitude i.natAbs := le_nearestMagnitude many.le
      rw [abs_mul, abs_mul, sign_abs, one_mul, one_mul, Nat.abs_cast, Nat.abs_cast]
      exact ⟨by exact_mod_cast reached, by exact_mod_cast stays⟩
    · left
      rw [nearestMagnitude_of_le few]

/-- A number that has the value of a double stays. -/
lemma toBinary64_of_scaled_eq {n : Number} {x : Binary64} (same : n.scaled = x.scaled) :
    n.toBinary64.scaled = n.scaled := by
  cases n with
  | double y => rfl
  | integer i inRange =>
    have small : i.natAbs < 2 ^ 64 := by omega
    have whole : i.natAbs * unit = magnitudeAt x.ordinal := by
      have natAbs_eq := congrArg Int.natAbs same
      rwa [scaled, Int.natAbs_mul, Int.natAbs_natCast, natAbs_scaled] at natAbs_eq
    rw [toBinary64, scaled_ofInt small, scaled_integer, nearestMagnitude_of_magnitude whole]

/-- Rounding moves a number by at most one part in 2^53. -/
lemma toBinary64_near (n : Number) :
    2 ^ 53 * |n.toBinary64.scaled - n.scaled| ≤ |n.scaled| := by
  cases n with
  | double x => simp [toBinary64, scaled]
  | integer i inRange =>
    have small : i.natAbs < 2 ^ 64 := by omega
    rw [toBinary64, scaled_ofInt small, scaled_integer, ← mul_sub, abs_mul, abs_mul, Nat.abs_cast]
    obtain ⟨above, below⟩ := nearestMagnitude_near i.natAbs
    have near : 2 ^ 53 * |(nearestMagnitude i.natAbs : ℤ) - (i.natAbs * unit : ℕ)| ≤
        (i.natAbs * unit : ℕ) := by
      generalize i.natAbs * unit = whole at *
      rcases abs_cases ((nearestMagnitude i.natAbs : ℤ) - whole) with ⟨eq, _⟩ | ⟨eq, _⟩ <;> omega
    calc 2 ^ 53 * (|i.sign| * |(nearestMagnitude i.natAbs : ℤ) - (i.natAbs * unit : ℕ)|)
        = |i.sign| * (2 ^ 53 * |(nearestMagnitude i.natAbs : ℤ) - (i.natAbs * unit : ℕ)|) := by ring
      _ ≤ |i.sign| * (i.natAbs * unit : ℕ) := mul_le_mul_of_nonneg_left near (abs_nonneg _)

lemma two_pow_le_abs_div {s : ℤ} (large : 2 ^ 53 * (unit : ℤ) ≤ |s|) :
    2 ^ 53 ≤ |(s : ℚ) / unit| := by
  have positive : (0 : ℚ) < unit := Nat.cast_pos.mpr unit_pos
  rw [abs_div, Nat.abs_cast, le_div_iff₀ positive]
  exact_mod_cast large

/-- The same, said of values. -/
lemma toBinary64_value_cases (n : Number) : n.toBinary64.value = n.value ∨
    2 ^ 53 ≤ |n.value| ∧ 2 ^ 53 ≤ |n.toBinary64.value| := by
  rcases n.toBinary64_cases with same | ⟨large, stays⟩
  · left
    rw [Binary64.value, value, same]
  · exact .inr ⟨two_pow_le_abs_div large, two_pow_le_abs_div stays⟩

lemma toBinary64_value_near (n : Number) :
    2 ^ 53 * |n.toBinary64.value - n.value| ≤ |n.value| := by
  have positive : (0 : ℚ) < unit := Nat.cast_pos.mpr unit_pos
  have near : 2 ^ 53 * |(n.toBinary64.scaled : ℚ) - n.scaled| ≤ |(n.scaled : ℚ)| := by
    exact_mod_cast n.toBinary64_near
  rw [Binary64.value, value, ← sub_div, abs_div, abs_div, ← mul_div_assoc, Nat.abs_cast]
  exact div_le_div_of_nonneg_right near positive.le

end Json.Number
end Shakedown
