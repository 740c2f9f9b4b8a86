import ChatRelay.Json.Double
import Mathlib.Algebra.Order.Field.Power
import Mathlib.Algebra.Order.Floor.Semifield
import Mathlib.Data.Rat.Floor

/-!
# The number that a double stands for

A double is kept as a sign and a rank. Here it is a rational number, its significand times a power
of two, and what is computed on ranks is said of that number: whether it is negative, and where it
is cut when it loses its fraction.
-/
namespace ChatRelay.Double

def magnitude (d : Double) : ℚ := d.significand * 2 ^ d.exponent

/-- The number that a double stands for. -/
def value (d : Double) : ℚ := if d.negative then -d.magnitude else d.magnitude

variable (d : Double)

/-- Only zero has no significand. -/
theorem significand_eq_zero_iff : d.significand = 0 ↔ d.rank = 0 := by
  unfold significand hiddenBit
  split <;> omega

theorem magnitude_nonneg : 0 ≤ d.magnitude :=
  mul_nonneg (Nat.cast_nonneg _) (zpow_nonneg zero_le_two _)

theorem magnitude_eq_zero_iff : d.magnitude = 0 ↔ d.rank = 0 := by
  have power : (2 : ℚ) ^ d.exponent ≠ 0 := zpow_ne_zero _ two_ne_zero
  rw [magnitude, mul_eq_zero, Nat.cast_eq_zero, or_iff_left power, significand_eq_zero_iff]

/-- A double tests as not negative if its number is not negative: both zeros are zero. -/
theorem isNonnegative_iff : d.isNonnegative = true ↔ 0 ≤ d.value := by
  have nonneg := d.magnitude_nonneg
  unfold isNonnegative value
  cases d.negative with
  | false => simpa using nonneg
  | true =>
    rw [if_pos rfl, neg_nonneg, nonneg.ge_iff_eq', magnitude_eq_zero_iff]
    simp

/-- A power of two as a quotient of which one side is one. -/
theorem two_zpow_eq (e : ℤ) : (2 : ℚ) ^ e = 2 ^ e.toNat / 2 ^ (-e).toNat := by
  obtain ⟨n, rfl | rfl⟩ := e.eq_nat_or_neg
  · simp
  · simp [zpow_neg]

/-- Cutting off the fraction is rounding down, since the sign does not count. -/
theorem truncate_eq_floor : d.truncate = ⌊d.magnitude⌋₊ := by
  have quotient : d.magnitude =
      ((d.significand * 2 ^ d.exponent.toNat : ℕ) : ℚ) / ((2 ^ (-d.exponent).toNat : ℕ) : ℚ) := by
    rw [magnitude, two_zpow_eq]
    push_cast
    ring
  rw [truncate, Nat.shiftRight_eq_div_pow, Nat.shiftLeft_eq, quotient, Nat.floor_div_eq_div]

/-- A number that is not negative is cut at the whole number below it. -/
theorem truncate_of_nonneg (nonneg : 0 ≤ d.value) : d.truncate = ⌊d.value⌋₊ := by
  rw [truncate_eq_floor]
  unfold value at nonneg ⊢
  split
  · next negative =>
    rw [if_pos negative] at nonneg
    have zero : d.magnitude = 0 := le_antisymm (neg_nonneg.1 nonneg) d.magnitude_nonneg
    rw [zero, neg_zero]
  · rfl

end ChatRelay.Double
