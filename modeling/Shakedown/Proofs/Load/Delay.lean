import Mathlib.Algebra.Group.Nat.Defs
import Mathlib.Tactic.Lemma
import Shakedown.Load.Settings

/-!
How long the delays between polls are.

A delay is counted in words, in which a power of two or a product may have no place. Both then stand
at the largest word, which no maximum exceeds, so the delay is the one that numbers without a limit
give. Delays never get shorter, and settings that a load run accepts have no delay of nothing to
make up for.
-/

namespace Shakedown

namespace Backoff

/-- The initial delay doubled at every attempt, up to the maximum, in numbers without a limit. -/
def capped (b : Backoff) (attempt : Nat) : Nat :=
  min (b.initialDelay.toNat * 2 ^ attempt) b.maxDelay.toNat

/-- A power of two that a word does not hold counts as the largest word. -/
lemma toNat_doubling (attempt : UInt32) :
    (doubling attempt).toNat = min (2 ^ attempt.toNat) (UInt64.size - 1) := by
  have size_eq : UInt64.size = 2 ^ 64 := rfl
  unfold doubling
  by_cases held : attempt < 64
  · have small : attempt.toNat < 64 := UInt32.lt_iff_toNat_lt.mp held
    have power_le : 2 ^ attempt.toNat ≤ 2 ^ 63 := Nat.pow_le_pow_right (by decide) (by omega)
    have shifted : ((1 : UInt64) <<< attempt.toUInt64).toNat = 2 ^ attempt.toNat := by
      rw [UInt64.toNat_shiftLeft, UInt32.toNat_toUInt64, Nat.mod_eq_of_lt small, Nat.shiftLeft_eq,
        UInt64.toNat_one, Nat.one_mul, Nat.mod_eq_of_lt (by omega)]
    rw [if_pos held, shifted]
    omega
  · have large : 64 ≤ attempt.toNat :=
      Nat.not_lt.mp fun small => held (UInt32.lt_iff_toNat_lt.mpr small)
    have power_le : 2 ^ 64 ≤ 2 ^ attempt.toNat := Nat.pow_le_pow_right (by decide) large
    rw [if_neg held, Seconds.toNat_largest]
    omega

/-- A limit on a factor and on the product is not felt under a maximum within that limit. -/
lemma min_saturated {initial power maximum limit : Nat} (allowed : maximum ≤ limit) :
    min (min (initial * min power limit) limit) maximum = min (initial * power) maximum := by
  by_cases held : power ≤ limit
  · rw [Nat.min_eq_left held]
    omega
  · by_cases nothing : initial = 0
    · rw [nothing, Nat.zero_mul, Nat.zero_mul]
      omega
    · -- Both products are beyond the limit, and so beyond the maximum.
      have limit_le : limit ≤ initial * limit := Nat.le_mul_of_pos_left limit (by omega)
      have power_le : power ≤ initial * power := Nat.le_mul_of_pos_left power (by omega)
      rw [Nat.min_eq_right (by omega : limit ≤ power)]
      omega

variable (b : Backoff)

lemma toNat_delay (attempt : UInt32) :
    (b.delay attempt).toNat = max 1 (b.capped attempt.toNat) := by
  have allowed : b.maxDelay.toNat ≤ UInt64.size - 1 := Nat.le_pred_of_lt b.maxDelay.toNat_lt_size
  have delay_eq : (b.delay attempt).toNat =
      max (min (Seconds.saturatingMul b.initialDelay (doubling attempt)).toNat b.maxDelay.toNat)
        1 := by
    rw [delay, Seconds.toNat_max, Seconds.toNat_min, UInt64.toNat_one]
  rw [delay_eq, Seconds.toNat_saturatingMul, toNat_doubling, min_saturated allowed, Nat.max_comm]
  rfl

lemma capped_mono {i j : Nat} (later : i ≤ j) : b.capped i ≤ b.capped j := by
  have power_le : 2 ^ i ≤ 2 ^ j := Nat.pow_le_pow_right (by decide) later
  have product_le := Nat.mul_le_mul_left b.initialDelay.toNat power_le
  unfold capped
  omega

lemma delay_mono {i j : UInt32} (later : i ≤ j) : b.delay i ≤ b.delay j := by
  have capped_le := b.capped_mono (UInt32.le_iff_toNat_le.mp later)
  rw [UInt64.le_iff_toNat_le, toNat_delay, toNat_delay]
  omega

/-- Just the delays that are not nothing pass. -/
lemma validate_eq_ok_iff :
    b.validate = .ok () ↔ 1 ≤ b.initialDelay.toNat ∧ 1 ≤ b.maxDelay.toNat := by
  have zero_iff (w : UInt64) : w = 0 ↔ w.toNat = 0 := UInt64.toNat_inj.symm
  unfold validate
  by_cases nothing : b.initialDelay = 0 ∨ b.maxDelay = 0
  · rw [if_pos nothing]
    rw [zero_iff, zero_iff] at nothing
    exact iff_of_false nofun (by omega)
  · rw [if_neg nothing]
    rw [zero_iff, zero_iff] at nothing
    exact iff_of_true rfl (by omega)

variable {b}

lemma one_le_capped (valid : b.validate = .ok ()) (attempt : Nat) : 1 ≤ b.capped attempt := by
  obtain ⟨initial_pos, maximum_pos⟩ := b.validate_eq_ok_iff.mp valid
  have product_pos : 1 ≤ b.initialDelay.toNat * 2 ^ attempt :=
    Nat.mul_pos initial_pos (Nat.two_pow_pos attempt)
  unfold capped
  omega

end Backoff

namespace LoadSettings

/-- Settings that are loaded, or stand for want of a file, have passed their check. -/
lemma validate_of_load {path : Option String} {files : Files} {settings : LoadSettings}
    (loaded : load path files = .ok settings) : settings.readiness.validate = .ok () := by
  unfold load at loaded
  split at loaded
  · cases loaded
    rfl
  · next path =>
    split at loaded
    · cases loaded
    · next text _ =>
      split at loaded
      · cases loaded
      · next read _ =>
        cases valid : read.readiness.validate with
        | error why =>
          rw [valid] at loaded
          cases loaded
        | ok _ =>
          rw [valid] at loaded
          cases loaded
          exact valid

end LoadSettings

namespace Backoff

/-- The delay after a poll is the initial delay doubled at every attempt, up to the maximum but at
least one second, as numbers without a limit have it. It never gets shorter, and for settings that
a load run accepts that one second is never what decides. -/
theorem delay_exact :
    (∀ (b : Backoff) (attempt : UInt32),
      (b.delay attempt).toNat = max 1 (b.capped attempt.toNat)) ∧
    (∀ (b : Backoff) (i j : UInt32), i ≤ j → b.delay i ≤ b.delay j) ∧
    ∀ (path : Option String) (files : Files) (settings : LoadSettings),
      LoadSettings.load path files = .ok settings → ∀ attempt : UInt32,
        (settings.readiness.delay attempt).toNat = settings.readiness.capped attempt.toNat ∧
          1 ≤ settings.readiness.capped attempt.toNat := by
  refine ⟨toNat_delay, fun b _ _ => b.delay_mono, ?_⟩
  intro path files settings loaded attempt
  have capped_pos := one_le_capped (LoadSettings.validate_of_load loaded) attempt.toNat
  refine ⟨?_, capped_pos⟩
  rw [toNat_delay]
  omega

/-- Settings whose maximum is the largest one that a file can give. -/
private def patient : List Char :=
  "[readiness]\ninitial_delay_secs = 3\nmax_delay_secs = 9223372036854775807\n".toList

private def patientFiles : Files := fun _ => .content (Text.Utf8.bytes patient)

private def patientSettings : LoadSettings where
  readiness := ⟨3, 9223372036854775807, 600⟩

/-- The product reaches the maximum at attempt 62 and stays there, also when no word holds the power
of two any more. -/
theorem delay_exact_patient :
    LoadSettings.load (some "load.toml") patientFiles = .ok patientSettings ∧
      (patientSettings.readiness.delay 61).toNat = 3 * 2 ^ 61 ∧
      (patientSettings.readiness.delay 62).toNat = 2 ^ 63 - 1 ∧
      (patientSettings.readiness.delay 64).toNat = 2 ^ 63 - 1 ∧
      patientSettings.readiness.delay 61 ≤ patientSettings.readiness.delay 4294967295 := by
  obtain ⟨_, longer, exact_delay⟩ := delay_exact
  have read : (LoadSettings.load (some "load.toml") patientFiles).toOption =
      some patientSettings := by decide +kernel
  have loaded : LoadSettings.load (some "load.toml") patientFiles = .ok patientSettings := by
    cases outcome : LoadSettings.load (some "load.toml") patientFiles with
    | error why =>
      rw [outcome] at read
      cases read
    | ok settings =>
      rw [outcome] at read
      rw [Option.some.inj read]
  have delay_eq (attempt : UInt32) :=
    (exact_delay (some "load.toml") patientFiles patientSettings loaded attempt).1
  refine ⟨loaded, ?_, ?_, ?_, longer _ _ _ (by decide)⟩
  · rw [delay_eq]
    decide
  · rw [delay_eq]
    decide
  · rw [delay_eq]
    decide

end Backoff
end Shakedown
