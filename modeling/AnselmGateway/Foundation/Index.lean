import AnselmGateway.Foundation.Table

/-! Tables with a unique index besides their primary key. The index is part of the
table's own integrity, so no operation can store two rows that share an entry. -/
namespace AnselmGateway.Foundation

/-- A table no two rows of which share an index entry. -/
@[ext] structure Indexed {κ ν ι : Type} (schema : Schema κ ν) (entry : ν → ι) where
  table : Table schema
  distinct : (table.rows.map fun row => entry row.2).Nodup

namespace Indexed
variable {κ ν ι : Type} {schema : Schema κ ν} {entry : ν → ι}

def empty : Indexed schema entry := ⟨.empty, List.nodup_nil⟩

instance : Inhabited (Indexed schema entry) := ⟨empty⟩

/-- `INSERT`, refused for a taken key or a taken entry. -/
def insert [DecidableEq κ] [DecidableEq ι] (indexed : Indexed schema entry) (key : κ) (value : ν) :
    Except Refusal (Indexed schema entry) :=
  if taken : entry value ∈ indexed.table.rows.map fun row => entry row.2 then .error .unique
  else
    match ran : indexed.table.insert key value with
    | .error refusal => .error refusal
    | .ok table => .ok {
        table := table
        distinct := by
          rw [(Table.insert_ok ran).1, List.map_append, List.map_singleton]
          exact List.nodup_append.mpr ⟨indexed.distinct, List.nodup_singleton _,
            fun held member added single => by
              rw [List.mem_singleton.mp single]
              exact fun same => taken (same ▸ member)⟩ }

/-- `DELETE … WHERE`. -/
def deleteWhere (indexed : Indexed schema entry) (matching : κ → ν → Bool) : Indexed schema entry where
  table := (indexed.table.deleteWhere matching).1
  distinct := indexed.distinct.sublist (List.filter_sublist.map _)

/-- A successful `INSERT` stores exactly the one new row, under a key that was
free. -/
theorem insert_ok [DecidableEq κ] [DecidableEq ι] {indexed after : Indexed schema entry} {key : κ}
    {value : ν} (ran : indexed.insert key value = .ok after) :
    after.table.rows = indexed.table.rows ++ [(key, value)] ∧ indexed.table.get? key = none := by
  unfold insert at ran
  split at ran
  · cases ran
  · split at ran
    · cases ran
    · rename_i inserted
      cases ran
      exact Table.insert_ok inserted

@[simp] theorem rows_deleteWhere (indexed : Indexed schema entry) (matching : κ → ν → Bool) :
    (indexed.deleteWhere matching).table.rows =
      indexed.table.rows.filter fun row => !matching row.1 row.2 := rfl

/-! ## Rows rewritten -/

/-- Every row rewritten, where the schema and the index do not look at what changes. -/
def mapValues (indexed : Indexed schema entry) (f : ν → ν)
    (keeps : ∀ key value, schema.check key (f value) = schema.check key value)
    (entries : ∀ value, entry (f value) = entry value) : Indexed schema entry where
  table := {
    rows := indexed.table.rows.map fun row => (row.1, f row.2)
    unique := by simpa [List.map_map, Function.comp_def] using indexed.table.unique
    checked := by
      intro row member
      obtain ⟨old, held, rfl⟩ := List.mem_map.mp member
      rw [keeps]
      exact indexed.table.checked old held
    bounded := by simpa using indexed.table.bounded }
  distinct := by simpa [List.map_map, Function.comp_def, entries] using indexed.distinct

section
variable {f : ν → ν} {keeps : ∀ key value, schema.check key (f value) = schema.check key value}
  {entries : ∀ value, entry (f value) = entry value}

@[simp] theorem rows_mapValues (indexed : Indexed schema entry) :
    (indexed.mapValues f keeps entries).table.rows =
      indexed.table.rows.map fun row => (row.1, f row.2) := rfl

theorem get?_mapValues [DecidableEq κ] (indexed : Indexed schema entry) (key : κ) :
    (indexed.mapValues f keeps entries).table.get? key = (indexed.table.get? key).map f := by
  simp [Table.get?, List.find?_map, Function.comp_def]

/-- What an `INSERT` into the table below reports, the index lets through. -/
theorem insert_below [DecidableEq κ] [DecidableEq ι] (indexed : Indexed schema entry) (key : κ)
    (value : ν) (free : entry value ∉ indexed.table.rows.map fun row => entry row.2) :
    (indexed.insert key value).map Indexed.table = indexed.table.insert key value := by
  unfold insert
  rw [dif_neg free]
  split
  · rename_i ran
    exact ran.symm
  · rename_i ran
    exact ran.symm

/-- The same `INSERT` into a table and into its rewritten rows. -/
theorem table_insert_mapValues [DecidableEq κ] (indexed : Indexed schema entry)
    (keeps : ∀ key value, schema.check key (f value) = schema.check key value)
    (entries : ∀ value, entry (f value) = entry value) (key : κ) (value : ν) :
    ((indexed.mapValues f keeps entries).table.insert key (f value)).map Table.rows =
      (indexed.table.insert key value).map fun after => after.rows.map fun row => (row.1, f row.2) := by
  have keys : (indexed.mapValues f keeps entries).table.rows.map Prod.fst =
      indexed.table.rows.map Prod.fst := by simp [List.map_map, Function.comp_def]
  have length : (indexed.mapValues f keeps entries).table.rows.length = indexed.table.rows.length :=
    List.length_map _
  unfold Table.insert
  simp only [keys, keeps, length]
  split
  · rfl
  · split
    · split
      · simp [Except.map]
      · rfl
    · rfl

/-- An `INSERT` is refused for the same reason before and after, and else stores the
rewritten row. -/
theorem insert_mapValues [DecidableEq κ] [DecidableEq ι] (indexed : Indexed schema entry) (key : κ)
    (value : ν) : (indexed.mapValues f keeps entries).insert key (f value) =
      (indexed.insert key value).map fun after => after.mapValues f keeps entries := by
  have index : ((indexed.mapValues f keeps entries).table.rows.map fun row => entry row.2) =
      indexed.table.rows.map fun row => entry row.2 := by
    simp [List.map_map, Function.comp_def, entries]
  by_cases listed : entry value ∈ indexed.table.rows.map fun row => entry row.2
  · unfold insert
    rw [dif_pos (index ▸ entries value ▸ listed), dif_pos listed]
    rfl
  · have below := insert_below indexed key value listed
    have above := insert_below (indexed.mapValues f keeps entries) key (f value)
      (index ▸ entries value ▸ listed)
    have rows := table_insert_mapValues indexed keeps entries key value
    rw [← below, ← above] at rows
    cases before : indexed.insert key value <;>
      cases after : (indexed.mapValues f keeps entries).insert key (f value) <;>
      simp [before, after, Except.map] at rows ⊢
    · exact rows
    · exact Indexed.ext (Table.ext rows)

theorem deleteWhere_mapValues (indexed : Indexed schema entry) {matching : κ → ν → Bool}
    (blind : ∀ key value, matching key (f value) = matching key value) :
    (indexed.mapValues f keeps entries).deleteWhere matching =
      (indexed.deleteWhere matching).mapValues f keeps entries := by
  ext1
  ext1
  simp [List.filter_map, Function.comp_def, blind]

end
end Indexed
end AnselmGateway.Foundation
