import Mathlib.Algebra.Group.Nat.Defs
import Mathlib.Data.List.Nodup
import Mathlib.Data.List.Basic
import AnselmGateway.Foundation.Transaction

/-! Relational tables with a primary key and row checks: rows in insertion
order, conditional updates over every matching row, and the counts a database
driver reports for them. A table carries its own integrity, so no operation
below can produce one whose keys repeat or whose rows break their check. -/
namespace AnselmGateway.Foundation

/-- The row check of a table. `false` is the one verdict that refuses a row. -/
structure Schema (κ ν : Type) where
  check : κ → ν → Bool

/-- The largest row number an ordinary table can hand out. Rows are numbered
from one, so it also bounds how many rows one table can hold. -/
def maxRowid : ℕ := 2 ^ 63 - 1

/-- Why a statement was refused as a whole. -/
inductive Refusal where
  | check
  | unique
  | full
  deriving DecidableEq, Repr

/-- A stored table: no two rows share a key, every row passes the check. -/
@[ext] structure Table {κ ν : Type} (schema : Schema κ ν) where
  rows : List (κ × ν)
  unique : (rows.map Prod.fst).Nodup
  checked : ∀ row ∈ rows, schema.check row.1 row.2 = true
  bounded : rows.length ≤ maxRowid

namespace Table
variable {κ ν : Type} {schema : Schema κ ν}

instance [DecidableEq κ] [DecidableEq ν] : DecidableEq (Table schema) := fun left right =>
  decidable_of_iff (left.rows = right.rows) ⟨Table.ext, congrArg Table.rows⟩

/-- A table nothing was ever inserted into. -/
def empty : Table schema := ⟨[], List.nodup_nil, by simp, Nat.zero_le _⟩

instance : Inhabited (Table schema) := ⟨empty⟩

variable [DecidableEq κ]

/-- `SELECT` by primary key. -/
def get? (table : Table schema) (key : κ) : Option ν :=
  (table.rows.find? fun row => row.1 = key).map Prod.snd

/-- A row's value, with a missing row read as `zero`. -/
def read (zero : ν) (table : Table schema) (key : κ) : ν := (table.get? key).getD zero

/-- `INSERT`: refused for a key that is taken, a row that breaks the check, or
a table with no row number left. -/
def insert (table : Table schema) (key : κ) (value : ν) : Except Refusal (Table schema) :=
  if taken : key ∈ table.rows.map Prod.fst then .error .unique
  else if valid : schema.check key value = true then
    if room : table.rows.length < maxRowid then
      .ok {
        rows := table.rows ++ [(key, value)]
        unique := by
          simpa [List.nodup_append, table.unique] using
            fun other value held same => taken (List.mem_map.mpr ⟨(other, value), held, same⟩)
        checked := by
          intro row member
          rcases List.mem_append.mp member with held | added
          · exact table.checked row held
          · rw [List.mem_singleton.mp added]; exact valid
        bounded := by simpa using Nat.succ_le_of_lt room }
    else .error .full
  else .error .check

/-- `INSERT OR IGNORE`: a taken key or a broken check skips the row silently;
a full table still refuses the statement. -/
def insertOrIgnore (table : Table schema) (key : κ) (value : ν) : Except Refusal (Table schema) :=
  match table.insert key value with
  | .ok after => .ok after
  | .error .full => .error .full
  | .error _ => .ok table

omit [DecidableEq κ] in
private theorem keys_assigned (rows : List (κ × ν)) (matching : κ → ν → Bool) (assign : ν → ν) :
    (rows.map fun row => (row.1, if matching row.1 row.2 then assign row.2 else row.2)).map Prod.fst =
      rows.map Prod.fst := by
  simp [List.map_map, Function.comp_def]

omit [DecidableEq κ] in
/-- `UPDATE … SET … WHERE`: every matching row is rewritten, and the number of
matching rows is reported. One rewritten row that breaks the check refuses the
whole statement. A primary key is never assigned. -/
def updateWhere (table : Table schema) (matching : κ → ν → Bool) (assign : ν → ν) :
    Except Refusal (Table schema × ℕ) :=
  let rows := table.rows.map fun row =>
    (row.1, if matching row.1 row.2 then assign row.2 else row.2)
  if valid : ∀ row ∈ rows, schema.check row.1 row.2 = true then
    .ok (⟨rows, (keys_assigned table.rows matching assign).symm ▸ table.unique, valid,
        by simpa [rows] using table.bounded⟩,
      table.rows.countP fun row => matching row.1 row.2)
  else .error .check

omit [DecidableEq κ] in
/-- `DELETE … WHERE`. -/
def deleteWhere (table : Table schema) (matching : κ → ν → Bool) : Table schema × ℕ :=
  (⟨table.rows.filter fun row => !matching row.1 row.2,
      table.unique.sublist (List.filter_sublist.map Prod.fst),
      fun row member => table.checked row (List.mem_of_mem_filter member),
      Nat.le_trans (List.length_filter_le _ _) table.bounded⟩,
    table.rows.countP fun row => matching row.1 row.2)

/-- `WHERE` on the whole primary key, with a further condition on the row. -/
def at' (key : κ) (condition : ν → Bool) : κ → ν → Bool :=
  fun other value => decide (other = key) && condition value

/-- `INSERT … ON CONFLICT DO UPDATE SET … WHERE`: a free key is inserted, a taken
one is rewritten if its row meets the condition. The affected rows are reported. -/
def upsertWhere (table : Table schema) (key : κ) (value : ν) (condition : ν → Bool)
    (assign : ν → ν) : Except Refusal (Table schema × ℕ) :=
  match table.get? key with
  | none => (table.insert key value).map fun after => (after, 1)
  | some _ => table.updateWhere (at' key condition) assign

private theorem find?_eq_some {rows : List (κ × ν)} (unique : (rows.map Prod.fst).Nodup)
    {key : κ} {value : ν} :
    ((rows.find? fun row => row.1 = key).map Prod.snd) = some value ↔ (key, value) ∈ rows := by
  induction rows with
  | nil => simp
  | cons row rest ih =>
    simp only [List.map_cons, List.nodup_cons] at unique
    obtain ⟨other, held⟩ := row
    by_cases same : other = key
    · subst same
      have absent : (other, value) ∉ rest := fun member =>
        unique.1 (List.mem_map.mpr ⟨_, member, rfl⟩)
      simp [absent, eq_comm]
    · rw [List.find?_cons_of_neg (by simpa using same), ih unique.2]
      simp [Ne.symm same]

/-- Reading by primary key finds exactly the stored row. -/
theorem get?_eq_some {table : Table schema} {key : κ} {value : ν} :
    table.get? key = some value ↔ (key, value) ∈ table.rows := find?_eq_some table.unique

theorem get?_eq_none {table : Table schema} {key : κ} :
    table.get? key = none ↔ key ∉ table.rows.map Prod.fst := by
  rw [Option.eq_none_iff_forall_ne_some]
  simp only [ne_eq, get?_eq_some, List.mem_map, Prod.exists, exists_and_right, exists_eq_right,
    not_exists]

theorem checked_get? {table : Table schema} {key : κ} {value : ν}
    (held : table.get? key = some value) : schema.check key value = true :=
  table.checked _ (get?_eq_some.mp held)

@[simp] theorem get?_empty (key : κ) : (empty : Table schema).get? key = none := rfl

/-- A successful `INSERT` stores exactly the one new row, under a key that was
free. -/
theorem insert_ok {table after : Table schema} {key : κ} {value : ν}
    (ran : table.insert key value = .ok after) :
    after.rows = table.rows ++ [(key, value)] ∧ table.get? key = none := by
  unfold insert at ran
  split at ran
  · cases ran
  · rename_i fresh
    split at ran
    · split at ran
      · cases ran
        exact ⟨rfl, get?_eq_none.mpr fresh⟩
      · cases ran
    · cases ran

theorem get?_insert {table after : Table schema} {key : κ} {value : ν}
    (ran : table.insert key value = .ok after) (other : κ) :
    after.get? other = if other = key then some value else table.get? other := by
  obtain ⟨rows, fresh⟩ := insert_ok ran
  ext found
  rw [get?_eq_some, rows, List.mem_append, List.mem_singleton, ← get?_eq_some]
  by_cases same : other = key
  · subst same
    simp [fresh, eq_comm]
  · simp [same]

/-- `INSERT OR IGNORE` of the row a missing key already reads as changes no
reading. -/
theorem read_insertOrIgnore {table after : Table schema} {key : κ} {zero : ν}
    (ran : table.insertOrIgnore key zero = .ok after) : after.read zero = table.read zero := by
  unfold insertOrIgnore at ran
  split at ran
  · rename_i inserted
    cases ran
    funext other
    unfold read
    rw [get?_insert inserted]
    split
    · rename_i same
      rw [same, (insert_ok inserted).2]
      rfl
    · rfl
  · cases ran
  · cases ran
    rfl

/-- `INSERT OR IGNORE` of a row that passes the check leaves its key stored, with
the old value if there was one. -/
theorem get?_insertOrIgnore {table after : Table schema} {key : κ} {value : ν}
    (valid : schema.check key value = true) (ran : table.insertOrIgnore key value = .ok after)
    (other : κ) : after.get? other =
      if other = key then some ((table.get? key).getD value) else table.get? other := by
  unfold insertOrIgnore at ran
  split at ran
  · rename_i inserted
    cases ran
    rw [get?_insert inserted, (insert_ok inserted).2]
    rfl
  · cases ran
  · rename_i refusal room refused
    cases ran
    have taken : key ∈ table.rows.map Prod.fst := by
      unfold insert at refused
      split at refused
      · assumption
      · split at refused
        · cases refused
        · cases refused
          exact absurd rfl room
    split
    · rename_i same
      subst same
      cases held : table.get? other with
      | none => exact absurd taken (get?_eq_none.mp held)
      | some found => rfl
    · rfl

omit [DecidableEq κ] in
theorem rows_updateWhere {table after : Table schema} {matching : κ → ν → Bool} {assign : ν → ν}
    {count : ℕ} (ran : table.updateWhere matching assign = .ok (after, count)) :
    (after.rows = table.rows.map fun row =>
        (row.1, if matching row.1 row.2 then assign row.2 else row.2)) ∧
      count = table.rows.countP fun row => matching row.1 row.2 := by
  unfold updateWhere at ran
  dsimp only at ran
  split at ran
  · cases ran
    exact ⟨rfl, rfl⟩
  · cases ran

/-- An `UPDATE` rewrites what it matches and reads back everything else as
before. -/
theorem get?_updateWhere {table after : Table schema} {matching : κ → ν → Bool} {assign : ν → ν}
    {count : ℕ} (ran : table.updateWhere matching assign = .ok (after, count)) (key : κ) :
    after.get? key = (table.get? key).map fun value =>
      if matching key value then assign value else value := by
  ext found
  rw [get?_eq_some, (rows_updateWhere ran).1, List.mem_map, Option.map_eq_some_iff]
  constructor
  · rintro ⟨⟨other, value⟩, held, same⟩
    cases same
    exact ⟨value, get?_eq_some.mpr held, rfl⟩
  · rintro ⟨value, held, rfl⟩
    exact ⟨(key, value), get?_eq_some.mp held, rfl⟩

private theorem countP_at {rows : List (κ × ν)} (unique : (rows.map Prod.fst).Nodup) (key : κ)
    (condition : ν → Bool) :
    rows.countP (fun row => at' key condition row.1 row.2) =
      if ((rows.find? fun row => row.1 = key).map Prod.snd).any condition then 1 else 0 := by
  induction rows with
  | nil => simp
  | cons row rest ih =>
    simp only [List.map_cons, List.nodup_cons] at unique
    obtain ⟨other, held⟩ := row
    by_cases same : other = key
    · subst same
      -- The head is the only row of its key, so nothing further down matches.
      have absent : rest.countP (fun row => at' other condition row.1 row.2) = 0 := by
        rw [List.countP_eq_zero]
        intro row member matched
        have : row.1 = other := by simpa [at'] using (Bool.and_eq_true_iff.mp matched).1
        exact unique.1 (this ▸ List.mem_map.mpr ⟨row, member, rfl⟩)
      rw [List.countP_cons, absent]
      simp [at']
    · rw [List.countP_cons, ih unique.2, List.find?_cons_of_neg (by simpa using same)]
      simp [at', same]

/-- At most one row is ever matched through the whole primary key, and it is
the row the key reads back. -/
theorem count_updateAt {table after : Table schema} {key : κ} {condition : ν → Bool}
    {assign : ν → ν} {count : ℕ}
    (ran : table.updateWhere (at' key condition) assign = .ok (after, count)) :
    count = if (table.get? key).any condition then 1 else 0 := by
  rw [(rows_updateWhere ran).2, countP_at table.unique]
  rfl

/-- An update through the primary key changes that key's value alone. -/
theorem get?_updateAt {table after : Table schema} {key : κ} {condition : ν → Bool}
    {assign : ν → ν} {count : ℕ} {value : ν}
    (ran : table.updateWhere (at' key condition) assign = .ok (after, count))
    (held : table.get? key = some value) (met : condition value = true) (other : κ) :
    after.get? other = if other = key then some (assign value) else table.get? other := by
  rw [get?_updateWhere ran]
  by_cases same : other = key
  · subst same
    simp [held, at', met]
  · cases table.get? other <;> simp [at', same]

/-- A row that may be rewritten under the check is rewritten. -/
theorem updateAt_succeeds {table : Table schema} {key : κ} {condition : ν → Bool} {assign : ν → ν}
    {value : ν} (held : table.get? key = some value) (met : condition value = true)
    (valid : schema.check key (assign value) = true) :
    ∃ after, table.updateWhere (at' key condition) assign = .ok (after, 1) := by
  have accepted : ∀ row ∈ table.rows.map (fun row =>
      (row.1, if at' key condition row.1 row.2 then assign row.2 else row.2)),
      schema.check row.1 row.2 = true := by
    intro row member
    obtain ⟨⟨other, stored⟩, inside, rfl⟩ := List.mem_map.mp member
    dsimp only
    split
    · rename_i matched
      obtain ⟨rfl, _⟩ : other = key ∧ condition stored = true := by simpa [at'] using matched
      rw [← get?_eq_some, held] at inside
      cases inside
      exact valid
    · exact table.checked _ inside
  have one : table.rows.countP (fun row => at' key condition row.1 row.2) = 1 := by
    rw [countP_at table.unique]
    change (if (table.get? key).any condition then 1 else 0) = 1
    simp [held, met]
  unfold updateWhere
  dsimp only
  rw [dif_pos accepted, one]
  exact ⟨_, rfl⟩

theorem get?_deleteWhere (table : Table schema) (matching : κ → ν → Bool) (key : κ) :
    (table.deleteWhere matching).1.get? key =
      (table.get? key).filter fun value => !matching key value := by
  ext found
  rw [get?_eq_some, Option.filter_eq_some_iff, get?_eq_some]
  simp [deleteWhere, List.mem_filter]

/-- What an upsert does to a key that is free: it stores the new row. -/
theorem upsertWhere_free {table after : Table schema} {key : κ} {value : ν} {condition : ν → Bool}
    {assign : ν → ν} {count : ℕ} (free : table.get? key = none)
    (ran : table.upsertWhere key value condition assign = .ok (after, count)) :
    count = 1 ∧ ∀ other, after.get? other = if other = key then some value else table.get? other := by
  simp only [upsertWhere, free] at ran
  cases inserted : table.insert key value with
  | error refusal =>
    rw [inserted] at ran
    cases ran
  | ok stored =>
    rw [inserted] at ran
    cases ran
    exact ⟨rfl, get?_insert inserted⟩

/-- What an upsert does to a taken key: it rewrites a row that meets the
condition, and reports none affected otherwise. -/
theorem upsertWhere_taken {table after : Table schema} {key : κ} {value held : ν}
    {condition : ν → Bool} {assign : ν → ν} {count : ℕ} (taken : table.get? key = some held)
    (ran : table.upsertWhere key value condition assign = .ok (after, count)) :
    count = (if condition held then 1 else 0) ∧ ∀ other, after.get? other =
      if other = key ∧ condition held = true then some (assign held) else table.get? other := by
  simp only [upsertWhere, taken] at ran
  refine ⟨by rw [count_updateAt ran, taken]; rfl, fun other => ?_⟩
  rw [get?_updateWhere ran]
  by_cases same : other = key
  · subst same
    by_cases met : condition held = true <;> simp [taken, at', met]
  · cases table.get? other <;> simp [at', same]

end Table
end AnselmGateway.Foundation
