import AnselmGateway.Foundation.Tally

/-! Records that are kept beside a table and name its rows: what they add up to,
against what the rows they name are worth. -/
namespace AnselmGateway.Foundation
variable {κ ν β : Type} [DecidableEq κ] {schema : Schema κ ν} {table : Table schema}
  {posts : List β} {key : β → κ} {amount : β → ℤ}

/-- What the records of one key add up to. -/
def postedTo (key : β → κ) (amount : β → ℤ) (posts : List β) (target : κ) : ℤ :=
  ((posts.filter fun post => key post = target).map amount).sum

theorem postedTo_cons (post : β) (target : κ) :
    postedTo key amount (post :: posts) target =
      (if key post = target then amount post else 0) + postedTo key amount posts target := by
  unfold postedTo
  by_cases same : key post = target <;> simp [same]

/-- A key no record names has nothing posted to it. -/
theorem postedTo_absent {target : κ} (absent : ∀ post ∈ posts, key post ≠ target) :
    postedTo key amount posts target = 0 := by
  unfold postedTo
  rw [List.filter_eq_nil_iff.mpr]
  · rfl
  · intro post member
    simpa using absent post member

namespace Table

omit [DecidableEq κ] in
/-- A weight that is nowhere larger has no larger total. -/
theorem tally_le {weight other : κ → ν → ℤ}
    (below : ∀ row ∈ table.rows, weight row.1 row.2 ≤ other row.1 row.2) :
    table.tally weight ≤ table.tally other :=
  List.sum_le_sum below

omit [DecidableEq κ] in
theorem tally_add (weight other : κ → ν → ℤ) :
    (table.tally fun k v => weight k v + other k v) = table.tally weight + table.tally other :=
  List.sum_map_add

/-- The weight of a single row is the total of what is nothing elsewhere. -/
theorem tally_single {target : κ} {value : ν} (held : table.get? target = some value) (worth : ℤ) :
    (table.tally fun k _ => if target = k then worth else 0) = worth := by
  have inside : (target, value) ∈ table.rows := get?_eq_some.mp held
  have distinct := table.unique
  unfold tally
  generalize table.rows = rows at inside distinct
  induction rows with
  | nil => cases inside
  | cons row rest ih =>
    obtain ⟨fresh, distinct⟩ := List.nodup_cons.mp distinct
    simp only [List.map_cons, List.sum_cons] at ih ⊢
    rcases List.mem_cons.mp inside with rfl | later
    · have elsewhere : (rest.map fun row => if target = row.1 then worth else 0).sum = 0 := by
        apply List.sum_eq_zero
        intro other member
        obtain ⟨row, among, rfl⟩ := List.mem_map.mp member
        exact if_neg fun same => fresh (List.mem_map.mpr ⟨row, among, same.symm⟩)
      rw [if_pos rfl, elsewhere, add_zero]
    · have apart : target ≠ row.1 := fun same =>
        fresh (List.mem_map.mpr ⟨(target, value), later, same⟩)
      rw [if_neg apart, zero_add]
      exact ih later distinct

/-- Records that name stored rows add up to what is posted to those rows. -/
theorem tally_postedTo (named : ∀ post ∈ posts, ∃ value, table.get? (key post) = some value) :
    (table.tally fun k _ => postedTo key amount posts k) = (posts.map amount).sum := by
  induction posts with
  | nil =>
    apply List.sum_eq_zero
    intro amount member
    obtain ⟨_, _, rfl⟩ := List.mem_map.mp member
    rfl
  | cons post rest ih =>
    obtain ⟨value, held⟩ := named post List.mem_cons_self
    simp only [postedTo_cons]
    rw [tally_add, tally_single held, List.map_cons, List.sum_cons,
      ih fun other member => named other (List.mem_cons_of_mem _ member)]

/-- **Cover.** Records that name stored rows, with no more posted to a row than it is
worth, add up to at most what all rows are worth. -/
theorem posted_le_tally {weight : κ → ν → ℤ}
    (named : ∀ post ∈ posts, ∃ value, table.get? (key post) = some value)
    (covered : ∀ target value, table.get? target = some value →
      postedTo key amount posts target ≤ weight target value) :
    (posts.map amount).sum ≤ table.tally weight := by
  rw [← tally_postedTo named]
  exact tally_le fun row member => covered row.1 row.2 (get?_eq_some.mpr member)

end Table
end AnselmGateway.Foundation
