import Mathlib.Data.List.Nodup
import Mathlib.Data.List.Perm.Subperm

/-! Recency lists: nodes in a list from its back to its front, and beside it a map that
knows a node by its key. What is looked up is moved to the front or replaced where it
stands, what is new is pushed in front, and what is past a ceiling is dropped from the
back. -/
namespace AnselmGateway.Foundation.Recency
variable {ν κ : Type} [DecidableEq κ] (key : ν → κ)

/-- The node under a key. -/
def lookup (ll : List ν) (k : κ) : Option ν := ll.find? fun node => key node = k

/-- The node of this key goes to the front, carrying `node`. -/
def toFront (ll : List ν) (node : ν) : List ν := (ll.filter fun other => key other ≠ key node) ++ [node]

/-- The node of this key carries `node` where it stands. -/
def replace (ll : List ν) (node : ν) : List ν := ll.map fun other => if key other = key node then node else other

/-- A key leaves the map. -/
def deleteKey (keys : List κ) (k : κ) : List κ := keys.filter fun other => other ≠ k

/-- Nodes leave from the back, each with its key, until the map is within the ceiling. -/
def trim (max : ℕ) : List ν → List κ → List ν × List κ
  | [], keys => ([], keys)
  | back :: rest, keys =>
    if keys.length > max then trim max rest (deleteKey keys (key back)) else (back :: rest, keys)

/-- The map and the list hold the same keys, each once. -/
structure Agree (ll : List ν) (keys : List κ) : Prop where
  unique : (ll.map key).Nodup
  mapped : keys.Perm (ll.map key)

variable {key} {ll : List ν} {keys left : List κ} {node : ν} {k : κ}

/-! ## The map and the list -/

omit [DecidableEq κ] in
theorem Agree.mem_keys (agree : Agree key ll keys) : k ∈ keys ↔ ∃ held ∈ ll, key held = k := by
  rw [agree.mapped.mem_iff, List.mem_map]

omit [DecidableEq κ] in
theorem Agree.length_keys (agree : Agree key ll keys) : keys.length = ll.length := by
  rw [agree.mapped.length_eq, List.length_map]

theorem lookup_some_iff (unique : (ll.map key).Nodup) :
    lookup key ll k = some node ↔ node ∈ ll ∧ key node = k := by
  constructor
  · intro found
    exact ⟨List.mem_of_find?_eq_some found, by simpa using List.find?_some found⟩
  · rintro ⟨held, rfl⟩
    cases found : lookup key ll (key node) with
    | none => exact absurd (List.find?_eq_none.mp found node held) (by simp)
    | some other =>
      have same : key other = key node := by simpa using List.find?_some found
      rw [List.inj_on_of_nodup_map unique (List.mem_of_find?_eq_some found) held same]

theorem lookup_none_iff : lookup key ll k = none ↔ ∀ held ∈ ll, key held ≠ k := by
  rw [lookup, List.find?_eq_none]
  simp

theorem deleteKey_perm (mapped : keys.Perm (k :: left)) (fresh : k ∉ left) :
    (deleteKey keys k).Perm left := by
  have kept : left.filter (fun other => other ≠ k) = left :=
    List.filter_eq_self.mpr fun other member => by
      simpa using fun same : other = k => fresh (same ▸ member)
  have removed := mapped.filter fun other => decide (other ≠ k)
  rwa [List.filter_cons_of_neg (by simp), kept] at removed

/-! ## What is looked up -/

theorem Agree.toFront (agree : Agree key ll keys) (held : k ∈ keys) (named : key node = k) :
    Agree key (toFront key ll node) keys := by
  have filtered : (ll.filter fun other => key other ≠ key node).map key =
      (ll.map key).filter fun other => other != k := by
    rw [List.filter_map, named]
    refine congrArg _ (List.filter_congr fun other _ => ?_)
    by_cases same : key other = k <;> simp [same]
  have same : ((Recency.toFront key ll node).map key).Perm (ll.map key) := by
    simp only [Recency.toFront, List.map_append, List.map_cons, List.map_nil]
    rw [filtered, named, ← agree.unique.erase_eq_filter]
    exact List.perm_append_comm.trans (List.perm_cons_erase (agree.mapped.subset held)).symm
  exact ⟨same.nodup_iff.mpr agree.unique, agree.mapped.trans same.symm⟩

theorem Agree.replace (agree : Agree key ll keys) : Agree key (replace key ll node) keys := by
  have same : (Recency.replace key ll node).map key = ll.map key := by
    rw [Recency.replace, List.map_map]
    refine List.map_congr_left fun other _ => ?_
    simp only [Function.comp_apply]
    split
    · rename_i named
      exact named.symm
    · rfl
  exact ⟨same ▸ agree.unique, same ▸ agree.mapped⟩

theorem mem_toFront {other : ν} (member : other ∈ toFront key ll node) : other ∈ ll ∨ other = node := by
  rcases List.mem_append.mp member with kept | last
  · exact .inl (List.mem_filter.mp kept).1
  · exact .inr (List.mem_singleton.mp last)

theorem lookup_without (gone : κ) :
    lookup key (ll.filter fun other => key other ≠ gone) k = if gone = k then none else lookup key ll k := by
  induction ll with
  | nil => simp [lookup]
  | cons back rest ih =>
    by_cases here : key back = gone
    · rw [List.filter_cons_of_neg (by simpa using here), ih]
      split
      · rfl
      · rename_i differs
        rw [lookup, lookup, List.find?_cons_of_neg (by simpa [here] using differs)]
    · rw [List.filter_cons_of_pos (by simpa using here)]
      by_cases named : key back = k
      · have differs : gone ≠ k := fun same => here (named.trans same.symm)
        rw [if_neg differs, lookup, lookup, List.find?_cons_of_pos (by simpa using named),
          List.find?_cons_of_pos (by simpa using named)]
      · rw [lookup, List.find?_cons_of_neg (by simpa using named)]
        rw [lookup] at ih
        rw [ih, lookup, lookup, List.find?_cons_of_neg (by simpa using named)]

theorem lookup_toFront :
    lookup key (toFront key ll node) k = if key node = k then some node else lookup key ll k := by
  have others := @lookup_without ν κ _ key ll k (key node)
  rw [lookup] at others
  rw [lookup, toFront, List.find?_append, others]
  split
  · rename_i named
    simp [named]
  · rename_i named
    simp [named, lookup]

theorem lookup_replace (held : ∃ old ∈ ll, key old = key node) :
    lookup key (replace key ll node) k = if key node = k then some node else lookup key ll k := by
  have read : lookup key (replace key ll node) k =
      (lookup key ll k).map fun other => if key other = key node then node else other := by
    rw [lookup, replace, List.find?_map, lookup]
    congr 2
    funext other
    simp only [Function.comp_apply]
    split
    · rename_i named
      rw [named]
    · rfl
  rw [read]
  by_cases named : key node = k
  · subst named
    obtain ⟨old, member, same⟩ := held
    cases found : lookup key ll (key node) with
    | none => exact absurd same (lookup_none_iff.mp found old member)
    | some other =>
      have same : key other = key node := by simpa using List.find?_some found
      simp [same]
  · rw [if_neg named]
    cases found : lookup key ll k with
    | none => rfl
    | some other =>
      have same : key other = k := by simpa using List.find?_some found
      simp [same, Ne.symm named]

/-! ## What is new -/

omit [DecidableEq κ] in
theorem Agree.push (agree : Agree key ll keys) (fresh : k ∉ keys) (named : key node = k) :
    Agree key (ll ++ [node]) (k :: keys) := by
  have same : (k :: keys).Perm ((ll ++ [node]).map key) := by
    rw [List.map_append, List.map_singleton, named]
    exact (agree.mapped.cons k).trans (List.perm_append_singleton _ _).symm
  exact ⟨same.nodup_iff.mp (List.nodup_cons.mpr ⟨fresh, agree.mapped.nodup_iff.mpr agree.unique⟩), same⟩

theorem lookup_push (fresh : ∀ held ∈ ll, key held ≠ key node) :
    lookup key (ll ++ [node]) k = if key node = k then some node else lookup key ll k := by
  rw [lookup, List.find?_append]
  by_cases named : key node = k
  · subst named
    have none := lookup_none_iff.mpr fresh
    rw [lookup] at none
    simp [none]
  · simp [named, lookup]

/-- What leaves is at the back, and as little as the ceiling asks for. -/
theorem Agree.trim (agree : Agree key ll keys) (max : ℕ) :
    (trim key max ll keys).1 = ll.drop (ll.length - max) ∧
      Agree key (trim key max ll keys).1 (trim key max ll keys).2 := by
  obtain ⟨unique, mapped⟩ := agree
  induction ll generalizing keys with
  | nil => exact ⟨by simp [Recency.trim], List.nodup_nil, mapped⟩
  | cons back rest ih =>
    have length := mapped.length_eq
    simp only [List.map_cons, List.nodup_cons, List.length_cons, List.length_map] at unique length
    by_cases full : keys.length > max
    · obtain ⟨dropped, left⟩ := ih unique.2 (deleteKey_perm mapped unique.1)
      simp only [Recency.trim, if_pos full]
      refine ⟨?_, left⟩
      rw [dropped, List.length_cons, show rest.length + 1 - max = rest.length - max + 1 by omega,
        List.drop_succ_cons]
    · simp only [Recency.trim, if_neg full]
      refine ⟨?_, List.nodup_cons.mpr unique, mapped⟩
      rw [List.length_cons, show rest.length + 1 - max = 0 by omega, List.drop_zero]

omit [DecidableEq κ] in
/-- Distinct keys from a list of names are no more than the names, so an absent name has
room wherever they all have. -/
theorem room_of_names {names : List κ} {max : ℕ} (unique : (ll.map key).Nodup)
    (named : ∀ held ∈ ll, key held ∈ names) (fewer : names.length ≤ max) (known : k ∈ names)
    (fresh : ∀ held ∈ ll, key held ≠ k) : ll.length < max := by
  have distinct : (k :: ll.map key).Nodup := by
    refine List.nodup_cons.mpr ⟨?_, unique⟩
    intro member
    obtain ⟨held, inside, same⟩ := List.mem_map.mp member
    exact fresh held inside same
  have inside : k :: ll.map key ⊆ names := by
    intro other member
    rcases List.mem_cons.mp member with rfl | mapped
    · exact known
    · obtain ⟨held, stored, rfl⟩ := List.mem_map.mp mapped
      exact named held stored
  have length := (distinct.subperm inside).length_le
  rw [List.length_cons, List.length_map] at length
  omega

end AnselmGateway.Foundation.Recency
