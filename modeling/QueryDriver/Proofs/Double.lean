import QueryDriver.Double
import QueryDriver.Proofs.Json.Numeral

/-!
Integers as doubles. The nearest double to an integer of sixty-four bits is finite: what is left of
its digits after rounding is one significand, and its power is far below the greatest one.
-/

namespace QueryDriver.Double

theorem isFinite_ofMagnitude {magnitude : Nat} (finite : magnitude < infiniteMagnitude)
    (negative : Bool) : (ofMagnitude negative magnitude).isFinite = true := by
  have weight : signWeight = 2 ^ 63 := rfl
  have bound : infiniteMagnitude < 2 ^ 63 := by decide
  rw [isFinite, decide_eq_true_eq, Double.magnitude, ofMagnitude, UInt64.toNat_ofNat', weight]
  split <;> omega

theorem roundQuotient_le (numerator denominator : Nat) :
    roundQuotient numerator denominator ≤ numerator / denominator + 1 := by
  rw [roundQuotient]
  split <;> omega

theorem log2_units_lt {whole power : Nat} (small : whole < UInt64.size) (bound : power ≤ 1074) :
    Nat.log2 (whole * Nat.pow 2 power) < 1139 := by
  rw [Nat.pow_eq]
  by_cases zero : whole * 2 ^ power = 0
  · rw [zero, Nat.log2_zero]
    decide
  · have units : whole * 2 ^ power < 2 ^ (64 + power) := by
      rw [Nat.pow_add]
      exact Nat.mul_lt_mul_of_pos_right small (Nat.two_pow_pos power)
    have log := (Nat.log2_lt zero).mpr units
    omega

/-- The bits of a number for which a significand has room. -/
theorem leading_lt (units : Nat) :
    units / Nat.pow 2 (Nat.log2 units - 52) < 2 * exponentWeight := by
  have weight : 2 * exponentWeight = 2 ^ 53 := rfl
  rw [weight, Nat.pow_eq, Nat.div_lt_iff_lt_mul (Nat.two_pow_pos _), ← Nat.pow_add]
  exact Nat.lt_of_lt_of_le Nat.lt_log2_self (Nat.pow_le_pow_right (by decide) (by omega))

theorem rounded_lt {units : Nat} (small : Nat.log2 units < 1139) :
    (Nat.log2 units - 52) * exponentWeight +
      roundQuotient units (Nat.pow 2 (Nat.log2 units - 52)) < infiniteMagnitude := by
  have rounded := roundQuotient_le units (Nat.pow 2 (Nat.log2 units - 52))
  have leading := leading_lt units
  have weight : exponentWeight = 2 ^ 52 := rfl
  rw [infiniteMagnitude, weight]
  omega

/-- An integer that sixty-four bits are enough for lies far below the largest double. -/
theorem isFinite_ofInt {value : Int} (fits : Json.Numeral.Fits value) :
    (ofInt value).isFinite = true := by
  have small : value.natAbs < UInt64.size := by
    obtain ⟨low, high⟩ := fits
    have least : Int64.minValue.toInt = -2 ^ 63 := by decide
    have size : UInt64.size = 2 ^ 64 := rfl
    omega
  apply isFinite_ofMagnitude
  rw [Nat.div_one, Nat.one_mul]
  refine Nat.lt_of_le_of_lt (Nat.min_le_left _ _) (rounded_lt ?_)
  apply log2_units_lt small
  decide

end QueryDriver.Double
