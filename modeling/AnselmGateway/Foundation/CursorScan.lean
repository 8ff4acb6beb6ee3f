import Mathlib.Data.Nat.ModEq

/-! A scan of `n` positions from a counter that wraps at `word`. The counter's last lap ends
where the word does and not where the positions do, so a scan across the wrap may come back
to a position early and never reach another. -/
namespace AnselmGateway.Foundation.CursorScan

/-- Where a scan stands after `i` steps. -/
def position (word n start i : ℕ) : ℕ := (start + i) % word % n

/-- The last counter value before the wrap that stands at a position. -/
def lastBefore (word n j : ℕ) : ℕ := (word - 1 - j) / n * n + j

/-- Whether a whole scan stands at a position: it does on the lap after the wrap, or the
last value before the wrap that does is not behind the start. -/
def Reached (word n start j : ℕ) : Prop := j + word < start + n ∨ start ≤ lastBefore word n j

instance (word n start j : ℕ) : Decidable (Reached word n start j) := by
  unfold Reached
  infer_instance

variable {word n start i j value : ℕ}

theorem lastBefore_mod (inside : j < n) : lastBefore word n j % n = j := by
  rw [lastBefore, Nat.add_comm, Nat.add_mul_mod_self_right, Nat.mod_eq_of_lt inside]

theorem lastBefore_lt (inside : j < word) : lastBefore word n j < word := by
  have lap := Nat.div_mul_le_self (word - 1 - j) n
  unfold lastBefore
  omega

theorem le_lastBefore (below : value < word) : value ≤ lastBefore word n (value % n) := by
  have split_ := Nat.div_add_mod value n
  rcases Nat.eq_zero_or_pos n with rfl | some_
  · simp [lastBefore]
  · have laps : value / n ≤ (word - 1 - value % n) / n := by
      rw [Nat.le_div_iff_mul_le some_, Nat.mul_comm]
      omega
    have scaled := Nat.mul_le_mul_right n laps
    rw [Nat.mul_comm (value / n)] at scaled
    unfold lastBefore
    omega

/-- The positions past the end of the last lap were last passed a whole lap before it. -/
theorem lastBefore_of_past (fits : n ≤ word) (inside : j < n) (past : word % n ≤ j) :
    lastBefore word n j + n + word % n = word + j := by
  have laps := Nat.div_add_mod word n
  have short := Nat.div_mul_le_self (word - 1 - j) n
  have next := Nat.lt_div_mul_add (a := word - 1 - j) (Nat.zero_lt_of_lt inside)
  have fewer : (word - 1 - j) / n * n < word / n * n := by
    rw [Nat.mul_comm (word / n)]
    omega
  have earlier := Nat.lt_of_mul_lt_mul_right fewer
  have later : word / n * n < ((word - 1 - j) / n + 2) * n := by
    rw [Nat.mul_comm (word / n), Nat.add_mul]
    omega
  have exact_ : word / n = (word - 1 - j) / n + 1 := by
    have bound := Nat.lt_of_mul_lt_mul_right later
    omega
  rw [exact_, Nat.mul_add, Nat.mul_comm n, Nat.mul_one] at laps
  unfold lastBefore
  omega

/-- A scan stands at exactly the positions it is said to reach. -/
theorem exists_position (fits : n ≤ word) (inside : j < n) (counter : start < word) :
    (∃ i < n, position word n start i = j) ↔ Reached word n start j := by
  unfold position Reached
  constructor
  · rintro ⟨i, early, here⟩
    rcases Nat.lt_or_ge (start + i) word with before | wrapped
    · rw [Nat.mod_eq_of_lt before] at here
      have latest := le_lastBefore (n := n) before
      rw [here] at latest
      exact Or.inr ((Nat.le_add_right start i).trans latest)
    · have lap : (start + i) % word = start + i - word := by
        rw [Nat.mod_eq_sub_mod wrapped, Nat.mod_eq_of_lt (by omega)]
      rw [lap, Nat.mod_eq_of_lt (by omega)] at here
      exact Or.inl (by omega)
  · rintro (after | ahead)
    · refine ⟨j + word - start, by omega, ?_⟩
      have lap : start + (j + word - start) = j + word := by omega
      rw [lap, Nat.add_mod_right, Nat.mod_eq_of_lt (Nat.lt_of_lt_of_le inside fits), Nat.mod_eq_of_lt inside]
    · -- The first value at this position from the start on, which is no later than the last.
      have short := Nat.mod_le (lastBefore word n j - start) n
      have below := lastBefore_lt (n := n) (Nat.lt_of_lt_of_le inside fits)
      have step : start + (lastBefore word n j - start) % n < word := by omega
      refine ⟨(lastBefore word n j - start) % n, Nat.mod_lt _ (by omega), ?_⟩
      rw [Nat.mod_eq_of_lt step, Nat.add_mod_mod, Nat.add_sub_cancel' ahead, lastBefore_mod inside]

/-- A scan reaches every position exactly when it stays before the wrap or the wrap is at
the end of a lap. -/
theorem all_reached (some_ : 0 < n) (fits : n ≤ word) (counter : start < word) :
    (∀ j < n, Reached word n start j) ↔ start + n ≤ word ∨ n ∣ word := by
  have rest := Nat.mod_lt word some_
  constructor
  · intro all
    by_contra short
    obtain ⟨across, ragged⟩ := not_or.mp short
    rw [Nat.dvd_iff_mod_eq_zero] at ragged
    -- The last position the old lap has not passed, if the new one ends before it.
    obtain ⟨missed, eq⟩ : ∃ missed, missed = n - 1 - (word - start - word % n) := ⟨_, rfl⟩
    have last := lastBefore_of_past fits (j := missed) (by omega) (by omega)
    have reached := all missed (by omega)
    unfold Reached at reached
    omega
  · rintro (before | whole) j inside
    · have lap := Nat.lt_div_mul_add (a := word - 1 - j) some_
      unfold Reached lastBefore
      omega
    · have even := Nat.mod_eq_zero_of_dvd whole
      have last := lastBefore_of_past fits inside (by omega)
      unfold Reached
      omega

end AnselmGateway.Foundation.CursorScan
