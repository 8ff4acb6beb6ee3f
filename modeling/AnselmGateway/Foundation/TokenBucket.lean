import Mathlib.Algebra.Order.Field.Basic
import Mathlib.Algebra.Order.Ring.Cast
import Mathlib.Tactic.Linarith

/-! Token buckets over an ordered field. A bucket fills at a constant rate up to its cap,
and whatever is admitted takes one token. Of two buckets, the one with the smaller cap and
rate never gets ahead of the other, and over any length of time no more is admitted than
was there and flowed in. -/
namespace AnselmGateway.Foundation.TokenBucket
variable {𝕜 : Type} [Field 𝕜] [LinearOrder 𝕜]

/-- The level after a length of time. -/
def refill (cap rate elapsed level : 𝕜) : 𝕜 := min cap (level + elapsed * rate)

/-- One token, if there is one. -/
def spend (level : 𝕜) : Bool × 𝕜 := if level < 1 then (false, level) else (true, level - 1)

variable {cap rate elapsed level : 𝕜}

/-! ## The level -/

theorem refill_le_cap : refill cap rate elapsed level ≤ cap := min_le_left _ _

/-- No more is there than was, and flowed in. -/
theorem refill_le_flow : refill cap rate elapsed level ≤ level + elapsed * rate := min_le_right _ _

theorem refill_zero (within : level ≤ cap) : refill cap rate 0 level = level := by
  rw [refill, zero_mul, add_zero, min_eq_right within]

/-- What is admitted is taken from the level. -/
theorem spend_total : (spend level).2 + ((spend level).1.toNat : 𝕜) = level := by
  rw [spend]
  split <;> simp

variable [IsStrictOrderedRing 𝕜]

theorem refill_nonneg (capNonneg : 0 ≤ cap) (rateNonneg : 0 ≤ rate) (elapsedNonneg : 0 ≤ elapsed)
    (levelNonneg : 0 ≤ level) : 0 ≤ refill cap rate elapsed level :=
  le_min capNonneg (add_nonneg levelNonneg (mul_nonneg elapsedNonneg rateNonneg))

/-- A smaller cap, rate and level leave a smaller level. -/
theorem refill_mono {cap' rate' level' : 𝕜} (caps : cap ≤ cap') (rates : rate ≤ rate')
    (levels : level ≤ level') (elapsedNonneg : 0 ≤ elapsed) :
    refill cap rate elapsed level ≤ refill cap' rate' elapsed level' :=
  min_le_min caps (add_le_add levels (mul_le_mul_of_nonneg_left rates elapsedNonneg))

/-- Filling for one length of time and then for another is filling for both. -/
theorem refill_refill {later : 𝕜} (rateNonneg : 0 ≤ rate) (laterNonneg : 0 ≤ later) :
    refill cap rate later (refill cap rate elapsed level) = refill cap rate (elapsed + later) level := by
  have flow := mul_nonneg laterNonneg rateNonneg
  have total : level + (elapsed + later) * rate = level + elapsed * rate + later * rate := by
    rw [add_mul, add_assoc]
  rw [refill, refill, refill, total]
  rcases le_total cap (level + elapsed * rate) with full | short
  · rw [min_eq_left full, min_eq_left (by linarith), min_eq_left (by linarith)]
  · rw [min_eq_right short]

/-- A bucket is full once its cap has flowed in. -/
theorem refill_full (levelNonneg : 0 ≤ level) (flowed : cap ≤ elapsed * rate) :
    refill cap rate elapsed level = cap := min_eq_left (by linarith)

theorem spend_nonneg (levelNonneg : 0 ≤ level) : 0 ≤ (spend level).2 := by
  rw [spend]
  split
  · exact levelNonneg
  · rename_i one
    exact sub_nonneg.mpr (not_lt.mp one)

theorem spend_le : (spend level).2 ≤ level := by
  have admitted : (0 : 𝕜) ≤ ((spend level).1.toNat : 𝕜) := Nat.cast_nonneg _
  have total := @spend_total _ _ _ level
  linarith

/-! ## Two buckets -/

/-- A bucket with what it has admitted so far trails another. -/
structure Trails (slow : 𝕜) (admitted : ℕ) (fast : 𝕜) (admitted' : ℕ) : Prop where
  fewer : admitted ≤ admitted'
  total : slow + admitted ≤ fast + admitted'

variable {slow fast : 𝕜} {admitted admitted' : ℕ}

theorem Trails.lower {lower : 𝕜} (trails : Trails slow admitted fast admitted') (less : lower ≤ slow) :
    Trails lower admitted fast admitted' :=
  ⟨trails.fewer, (add_le_add_left less _).trans trails.total⟩

/-- Time keeps one bucket behind the other. -/
theorem Trails.refill (trails : Trails slow admitted fast admitted') :
    Trails (refill cap rate elapsed slow) admitted (refill cap rate elapsed fast) admitted' := by
  refine ⟨trails.fewer, ?_⟩
  have fewer : (admitted : 𝕜) ≤ admitted' := Nat.cast_le.mpr trails.fewer
  have total := trails.total
  rw [TokenBucket.refill, TokenBucket.refill]
  rcases le_total cap (fast + elapsed * rate) with full | short
  · rw [min_eq_left full]
    have here : min cap (slow + elapsed * rate) ≤ cap := min_le_left _ _
    linarith
  · rw [min_eq_right short]
    have here : min cap (slow + elapsed * rate) ≤ slow + elapsed * rate := min_le_right _ _
    linarith

/-- So does one request to both. -/
theorem Trails.spend (trails : Trails slow admitted fast admitted') :
    Trails (spend slow).2 (admitted + (spend slow).1.toNat) (spend fast).2
      (admitted' + (spend fast).1.toNat) := by
  have total := trails.total
  constructor
  · rw [TokenBucket.spend, TokenBucket.spend]
    split
    · exact trails.fewer.trans (Nat.le_add_right _ _)
    · rename_i one
      split
      · rename_i none
        -- The one in front has no token left, so it has admitted more.
        have ahead : (admitted : 𝕜) < admitted' := by linarith [not_lt.mp one]
        exact Nat.cast_lt.mp ahead
      · exact Nat.add_le_add_right trails.fewer 1
  · have here := @spend_total _ _ _ slow
    have there := @spend_total _ _ _ fast
    rw [Nat.cast_add, Nat.cast_add]
    linarith

end AnselmGateway.Foundation.TokenBucket
