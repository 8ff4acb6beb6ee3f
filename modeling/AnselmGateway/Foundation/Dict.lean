import Mathlib.Data.List.AList

/-! Dictionaries that are swept: a range over the whole of one that deletes what it meets,
and one that counts. Neither depends on the order of the range. -/
namespace AnselmGateway.Foundation

/-- A dictionary from keys to values. -/
abbrev Dict (κ ν : Type) := AList fun _ : κ => ν

namespace Dict
variable {κ ν : Type}

/-- Delete every entry that meets a condition. -/
def deleteWhere (dict : Dict κ ν) (dropped : κ → ν → Bool) : Dict κ ν where
  entries := dict.entries.filter fun entry => !dropped entry.1 entry.2
  nodupKeys := dict.nodupKeys.sublist List.filter_sublist

/-- How many entries meet a condition. -/
def countWhere (dict : Dict κ ν) (counted : κ → ν → Bool) : ℕ :=
  dict.entries.countP fun entry => counted entry.1 entry.2

variable [DecidableEq κ] {dict : Dict κ ν} {key : κ} {value : ν}

theorem lookup_eq_some : dict.lookup key = some value ↔ (⟨key, value⟩ : Sigma fun _ : κ => ν) ∈ dict.entries :=
  AList.mem_lookup_iff

/-- A sweep takes exactly what it is told to. -/
theorem lookup_deleteWhere (dropped : κ → ν → Bool) (key : κ) :
    (dict.deleteWhere dropped).lookup key = (dict.lookup key).filter fun value => !dropped key value := by
  ext value
  rw [lookup_eq_some, Option.filter_eq_some_iff, lookup_eq_some, deleteWhere, List.mem_filter]

theorem lookup_insert (dict : Dict κ ν) (key other : κ) (value : ν) :
    (dict.insert key value).lookup other = if other = key then some value else dict.lookup other := by
  split
  · rename_i same
    rw [same, AList.lookup_insert]
  · rename_i differs
    exact AList.lookup_insert_ne differs

/-- There are as many entries as keys that are held. -/
theorem length_of_held {keys : List κ} (nodup : keys.Nodup) (held : ∀ key ∈ keys, (dict.lookup key).isSome = true) :
    keys.length ≤ dict.entries.length := by
  have inside : keys ⊆ dict.entries.map Sigma.fst := by
    intro key member
    obtain ⟨value, found⟩ := Option.isSome_iff_exists.mp (held key member)
    exact List.mem_map.mpr ⟨⟨key, value⟩, lookup_eq_some.mp found, rfl⟩
  have fewer := (List.subperm_of_subset nodup inside).length_le
  rwa [List.length_map] at fewer

/-- A count over the entries is a count of keys, each taken once. -/
theorem countWhere_eq {counted : κ → ν → Bool} {keys : List κ} (nodup : keys.Nodup)
    (exact_ : ∀ key, key ∈ keys ↔ (dict.lookup key).any (counted key) = true) :
    dict.countWhere counted = keys.length := by
  have unique : ((dict.entries.filter fun entry => counted entry.1 entry.2).map Sigma.fst).Nodup :=
    (dict.nodupKeys.sublist List.filter_sublist)
  have same : ((dict.entries.filter fun entry => counted entry.1 entry.2).map Sigma.fst).Perm keys := by
    refine (List.perm_ext_iff_of_nodup unique nodup).mpr fun key => ?_
    rw [exact_ key, List.mem_map, Option.any_eq_true]
    constructor
    · rintro ⟨⟨_, value⟩, listed, rfl⟩
      obtain ⟨held, met⟩ := List.mem_filter.mp listed
      exact ⟨value, lookup_eq_some.mpr held, met⟩
    · rintro ⟨value, held, met⟩
      exact ⟨⟨key, value⟩, List.mem_filter.mpr ⟨lookup_eq_some.mp held, met⟩, rfl⟩
  rw [countWhere, List.countP_eq_length_filter, ← same.length_eq, List.length_map]

end Dict
end AnselmGateway.Foundation
