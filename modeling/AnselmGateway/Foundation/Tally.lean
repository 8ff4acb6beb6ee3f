import Mathlib.Algebra.BigOperators.Group.List.Basic
import Mathlib.Algebra.Order.BigOperators.Group.List
import Mathlib.Algebra.Order.Group.Int
import Mathlib.Tactic.Abel
import AnselmGateway.Foundation.Table

/-! Totals over a table, and what one statement does to them. A balance that
is kept apart from the rows it sums is right exactly when every statement
moves both by the same amount; these lemmas are the rows' half of that. -/
namespace AnselmGateway.Foundation.Table
variable {κ ν α : Type} {schema : Schema κ ν}

/-- The sum of a weight over every stored row. -/
def tally [AddCommMonoid α] (table : Table schema) (weight : κ → ν → α) : α :=
  (table.rows.map fun row => weight row.1 row.2).sum

@[simp] theorem tally_empty [AddCommMonoid α] (weight : κ → ν → α) :
    (empty : Table schema).tally weight = 0 := rfl

variable [DecidableEq κ]

/-- One inserted row adds its own weight. -/
theorem tally_insert [AddCommMonoid α] {table after : Table schema} {key : κ} {value : ν}
    (ran : table.insert key value = .ok after) (weight : κ → ν → α) :
    after.tally weight = table.tally weight + weight key value := by
  simp [tally, (insert_ok ran).1, List.map_append, List.sum_append]

omit [DecidableEq κ] in
/-- A statement that reports no matching row leaves the table as it was. -/
theorem updateWhere_none {table after : Table schema} {matching : κ → ν → Bool} {assign : ν → ν}
    (ran : table.updateWhere matching assign = .ok (after, 0)) : after = table := by
  obtain ⟨rows, count⟩ := rows_updateWhere ran
  have unmatched := List.countP_eq_zero.mp count.symm
  apply Table.ext
  rw [rows]
  calc table.rows.map (fun row => (row.1, if matching row.1 row.2 then assign row.2 else row.2))
      = table.rows.map id := List.map_congr_left fun row member => by
        simp [unmatched row member]
    _ = table.rows := List.map_id _

private theorem sum_at [AddCommGroup α] {rows : List (κ × ν)} (unique : (rows.map Prod.fst).Nodup)
    {key : κ} {condition : ν → Bool} {assign : ν → ν} {value : ν} (held : (key, value) ∈ rows)
    (met : condition value = true) (weight : κ → ν → α) :
    ((rows.map fun row =>
        (row.1, if at' key condition row.1 row.2 then assign row.2 else row.2)).map
          fun row => weight row.1 row.2).sum =
      (rows.map fun row => weight row.1 row.2).sum + (weight key (assign value) - weight key value) := by
  induction rows with
  | nil => cases held
  | cons row rest ih =>
    simp only [List.map_cons, List.nodup_cons] at unique
    simp only [List.map_cons, List.sum_cons]
    rcases List.mem_cons.mp held with rfl | inside
    · -- The matched row is the head; uniqueness leaves the rest untouched.
      have untouched : rest.map (fun row =>
          (row.1, if at' key condition row.1 row.2 then assign row.2 else row.2)) = rest := by
        conv_rhs => rw [← List.map_id rest]
        refine List.map_congr_left fun row member => ?_
        have other : row.1 ≠ key := fun same =>
          unique.1 (same ▸ List.mem_map.mpr ⟨row, member, rfl⟩)
        simp [at', other]
      rw [untouched]
      simp only [at', decide_true, met, Bool.and_self, ↓reduceIte]
      abel
    · have other : row.1 ≠ key := fun same =>
        unique.1 (same ▸ List.mem_map.mpr ⟨(key, value), inside, rfl⟩)
      rw [ih unique.2 inside]
      simp only [at', other, decide_false, Bool.false_and, Bool.false_eq_true, ↓reduceIte]
      abel

/-- Rewriting one row moves the total by the change of that row's weight. -/
theorem tally_updateAt [AddCommGroup α] {table after : Table schema} {key : κ}
    {condition : ν → Bool} {assign : ν → ν} {count : ℕ} {value : ν}
    (ran : table.updateWhere (at' key condition) assign = .ok (after, count))
    (held : table.get? key = some value) (met : condition value = true) (weight : κ → ν → α) :
    after.tally weight =
      table.tally weight + (weight key (assign value) - weight key value) := by
  unfold tally
  rw [(rows_updateWhere ran).1]
  exact sum_at table.unique (get?_eq_some.mp held) met weight

omit [DecidableEq κ] in
/-- Adding one for each row that meets a condition counts them. -/
theorem tally_ite_one (table : Table schema) (counted : κ → ν → Bool) :
    table.tally (fun key value => if counted key value then (1 : ℤ) else 0) =
      (table.rows.countP fun row => counted row.1 row.2 : ℕ) := by
  unfold tally
  induction table.rows with
  | nil => rfl
  | cons row rest ih =>
    rw [List.map_cons, List.sum_cons, ih, List.countP_cons]
    cases met : counted row.1 row.2 <;> simp [met, add_comm]

/-- No stored row weighs more than the whole, if none weighs less than nothing. -/
theorem weight_le_tally {table : Table schema} {key : κ} {value : ν} {weight : κ → ν → ℤ}
    (held : table.get? key = some value)
    (nonneg : ∀ row ∈ table.rows, 0 ≤ weight row.1 row.2) : weight key value ≤ table.tally weight := by
  have low (amount : ℤ) (member : amount ∈ table.rows.map fun row => weight row.1 row.2) :
      0 ≤ amount := by
    obtain ⟨row, inside, rfl⟩ := List.mem_map.mp member
    exact nonneg row inside
  exact List.single_le_sum low _ (List.mem_map.mpr ⟨(key, value), get?_eq_some.mp held, rfl⟩)

end AnselmGateway.Foundation.Table
