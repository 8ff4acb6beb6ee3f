import Mathlib.Algebra.Order.Ring.Int

/-! Signed 64-bit arithmetic read as integers. Each lemma states when an
operation of the machine type does what the integers do, so that a caller's
range check can be turned into an exact result once and for all. -/
namespace AnselmGateway.Foundation

/-- The largest signed 64-bit value. -/
def maxInt64 : ℤ := 2 ^ 63 - 1

@[simp] theorem maxValue_toInt : Int64.maxValue.toInt = maxInt64 := rfl

@[simp] theorem zero_toInt : (0 : Int64).toInt = 0 := rfl

theorem toInt_le_maxInt64 (value : Int64) : value.toInt ≤ maxInt64 := by
  have := value.toInt_lt
  unfold maxInt64
  omega

theorem toInt_nonneg {value : Int64} : 0 ≤ value.toInt ↔ 0 ≤ value := by
  rw [Int64.le_iff_toInt_le, zero_toInt]

theorem toInt_max (left right : Int64) : (max left right).toInt = max left.toInt right.toInt := by
  change (if left ≤ right then right else left).toInt = _
  rw [max_def]
  simp only [Int64.le_iff_toInt_le]
  split <;> rfl

theorem toInt_pos {value : Int64} : 0 < value.toInt ↔ 0 < value := by
  rw [Int64.lt_iff_toInt_lt, zero_toInt]

private theorem bmod_of_range {value : ℤ} (low : -2 ^ 63 ≤ value) (high : value < 2 ^ 63) :
    value.bmod (2 ^ 64) = value := by
  rw [Int.bmod_eq_of_le] <;> omega

theorem toInt_sub_of_range {left right : Int64} (low : -2 ^ 63 ≤ left.toInt - right.toInt)
    (high : left.toInt - right.toInt < 2 ^ 63) :
    (left - right).toInt = left.toInt - right.toInt := by
  rw [Int64.toInt_sub, bmod_of_range low high]

theorem toInt_add_of_range {left right : Int64} (low : -2 ^ 63 ≤ left.toInt + right.toInt)
    (high : left.toInt + right.toInt < 2 ^ 63) :
    (left + right).toInt = left.toInt + right.toInt := by
  rw [Int64.toInt_add, bmod_of_range low high]

theorem toInt_mul_of_range {left right : Int64} (low : -2 ^ 63 ≤ left.toInt * right.toInt)
    (high : left.toInt * right.toInt < 2 ^ 63) :
    (left * right).toInt = left.toInt * right.toInt := by
  rw [Int64.toInt_mul, bmod_of_range low high]

theorem toInt_neg_of_range {value : Int64} (low : -2 ^ 63 < value.toInt) :
    (-value).toInt = -value.toInt := by
  have high := value.toInt_lt
  rw [Int64.toInt_neg, bmod_of_range (by omega) (by omega)]

/-- The difference of two non-negative values never wraps. -/
theorem toInt_sub_of_nonneg {left right : Int64} (leftNonneg : 0 ≤ left.toInt)
    (rightNonneg : 0 ≤ right.toInt) : (left - right).toInt = left.toInt - right.toInt := by
  have leftHigh := left.toInt_lt
  have rightHigh := right.toInt_lt
  exact toInt_sub_of_range (by omega) (by omega)

/-- Every non-negative integer up to the largest value is one. -/
theorem exists_toInt {value : ℤ} (nonneg : 0 ≤ value) (small : value ≤ maxInt64) :
    ∃ word : Int64, word.toInt = value := by
  unfold maxInt64 at small
  exact ⟨Int64.ofInt value, Int64.toInt_ofInt_of_le (by omega) (by omega)⟩

/-- What a ceiling of the type leaves for an amount is room for it. -/
theorem le_ceiling_iff {held : ℤ} {amount : Int64} (nonneg : 0 ≤ amount.toInt) :
    held ≤ (Int64.maxValue - amount).toInt ↔ held + amount.toInt ≤ maxInt64 := by
  have room : (Int64.maxValue - amount).toInt = maxInt64 - amount.toInt :=
    toInt_sub_of_nonneg (by decide) nonneg
  rw [room]
  omega

/-- The guard against an overflowing sum. -/
theorem le_maxValue_sub_iff {left right : Int64} (nonneg : 0 ≤ right.toInt) :
    left ≤ Int64.maxValue - right ↔ left.toInt + right.toInt ≤ maxInt64 := by
  rw [Int64.le_iff_toInt_le, le_ceiling_iff nonneg]

/-- The guard against an overflowing product. -/
theorem le_maxValue_div_iff {left right : Int64} (pos : 0 < left.toInt) :
    right ≤ Int64.maxValue / left ↔ left.toInt * right.toInt ≤ maxInt64 := by
  have quotient : (Int64.maxValue / left).toInt = maxInt64 / left.toInt := by
    rw [Int64.toInt_div_of_ne_left _ _ (by decide), maxValue_toInt,
      Int.tdiv_eq_ediv_of_nonneg (by decide)]
  rw [Int64.le_iff_toInt_le, quotient, Int.le_ediv_iff_mul_le pos, mul_comm]

end AnselmGateway.Foundation
